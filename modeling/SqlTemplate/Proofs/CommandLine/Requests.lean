import SqlTemplate.Proofs.CommandLine.Settings
import SqlTemplate.Proofs.CommandLine.Spelling

/-! Render requests as lines of options. A request can be written as its settings in any order, also
among options that later ones replace, and is read back as it was. No line in which a document is
given twice is a request. -/

namespace SqlTemplate.CommandLine

namespace Options

variable {o o₁ o₂ o' : Options} {c c' : Setting} {cs cs' : List Setting}

/-! ### Settings in any order -/

/-- Puts settings into effect one after the other. -/
def putAll : List Setting → Options → Except UsageError Options
  | [], o => .ok o
  | c :: cs, o => (o.put c).bind (putAll cs)

theorem put_swap (h : c.subject ≠ c'.subject) (h₁ : o.put c = .ok o₁) (h₂ : o₁.put c' = .ok o₂) :
    ∃ o₃, o.put c' = .ok o₃ ∧ o₃.put c = .ok o₂ := by
  obtain ⟨-, rfl⟩ := put_eq_ok_iff.1 h₁
  rw [put_update h] at h₂
  obtain ⟨o₃, h₃, rfl⟩ := map_eq_ok h₂
  obtain ⟨-, rfl⟩ := put_eq_ok_iff.1 h₃
  refine ⟨o.update c', h₃, ?_⟩
  rw [put_update h.symm, h₁, ← update_comm h]
  rfl

/-- Settings of different subjects that can be put into effect can be so in any order, with
the same result. -/
theorem putAll_perm (h : cs.Perm cs') (hdistinct : cs.Pairwise fun c c' => c.subject ≠ c'.subject)
    (hput : o.putAll cs = .ok o') : o.putAll cs' = .ok o' := by
  induction h generalizing o with
  | nil => exact hput
  | cons c _ ih =>
    obtain ⟨o₁, h₁, hput⟩ := bind_eq_ok hput
    rw [putAll, h₁]
    exact ih (List.pairwise_cons.1 hdistinct).2 hput
  | swap c c' cs =>
    obtain ⟨o₁, h₁, hput⟩ := bind_eq_ok hput
    obtain ⟨o₂, h₂, hput⟩ := bind_eq_ok hput
    have hsubject : c'.subject ≠ c.subject :=
      (List.pairwise_cons.1 hdistinct).1 c List.mem_cons_self
    obtain ⟨o₃, h₃, h₃'⟩ := put_swap hsubject h₁ h₂
    rw [putAll, h₃]
    show (o₃.put c').bind (putAll cs) = .ok o'
    rw [h₃']
    exact hput
  | trans hperm _ ih ih' => exact ih' ((hperm.pairwise_iff Ne.symm).1 hdistinct) (ih hdistinct hput)

theorem setAll_option (h : ∀ c ∈ cs, c.Nameable) (o : Options) :
    o.setAll (cs.map Setting.option) = o.putAll cs := by
  induction cs generalizing o with
  | nil => rfl
  | cons c cs ih =>
    have hrest := ih fun c hc => h c (List.mem_cons_of_mem _ hc)
    rw [List.map_cons, setAll, set_eq, Setting.read_option (h c List.mem_cons_self), putAll]
    exact congrArg (o.put c).bind (funext hrest)

end Options

namespace RenderRequest

variable {r : RenderRequest}

/-- What a request says, one setting for each subject that it says something about. -/
def settings (r : RenderRequest) : List Setting :=
  (r.config.map .config).toList ++ .document .template r.template ::
  (r.args.map (.document .args)).toList ++
    (r.dialect.map .dialect).toList ++ (r.skipToken.map .skipToken).toList

theorem settings_distinct (r : RenderRequest) :
    r.settings.Pairwise fun c c' => c.subject ≠ c'.subject := by
  obtain ⟨config, template, args, dialect, skipToken⟩ := r
  cases config <;> cases args <;> cases dialect <;> cases skipToken <;>
    simp [settings, Setting.subject]

theorem putAll_settings (r : RenderRequest) :
    ({} : Options).putAll r.settings =
      .ok ⟨r.config, some r.template, r.args, r.dialect, r.skipToken⟩ := by
  obtain ⟨config, template, args, dialect, skipToken⟩ := r
  cases config <;> cases args <;> cases dialect <;> cases skipToken <;> rfl

theorem settings_nameable (htemplate : r.template ≠ .file ['-'])
    (hargs : r.args ≠ some (.file ['-'])) : ∀ c ∈ r.settings, c.Nameable := by
  intro c hc
  simp only [settings, List.mem_append, List.mem_cons, Option.mem_toList,
    Option.map_eq_some_iff] at hc
  rcases hc with ((⟨path, -, rfl⟩ | rfl | ⟨s, hs, rfl⟩) | ⟨d, -, rfl⟩) | ⟨token, -, rfl⟩
  · trivial
  · exact htemplate
  · exact fun hdash => hargs (by rw [hs, hdash])
  · trivial
  · trivial

end RenderRequest

/-! ### Options that are replaced -/

/-- A setting that the next one of its subject replaces: any but a document. -/
def Setting.Replaceable (c : Setting) : Prop := ∀ d, c.subject ≠ .document d

/-- What an option says as it is written. -/
def Spelling.Says (s : Spelling) (c : Setting) : Prop := Setting.read s.option = .ok c

/-- The second line is the first with options added that later options of the same flag replace. -/
inductive Adds : List Spelling → List Spelling → Prop
  | nil : Adds [] []
  | same (s : Spelling) {ss ss' : List Spelling} : Adds ss ss' → Adds (s :: ss) (s :: ss')
  | replaced {s s' : Spelling} {c : Setting} {ss ss' : List Spelling} : s.Says c →
    c.Replaceable → s' ∈ ss' → s'.option.1 = s.option.1 → Adds ss ss' → Adds ss (s :: ss')

namespace Options

variable {o o' : Options} {c : Setting} {g : Flag × Text} {gs : List (Flag × Text)}

theorem put_replaceable (h : c.Replaceable) (o : Options) : o.put c = .ok (o.update c) := by
  refine put_eq_ok_iff.2 ⟨?_, rfl⟩
  cases c with
  | document d s => exact absurd rfl (h d)
  | config | dialect | skipToken => rfl

/-- A setting is without effect in front of a later option of its flag. -/
theorem setAll_update (hread : Setting.read g = .ok c) (hc : c.Replaceable)
    (hlater : ∃ g' ∈ gs, g'.1 = g.1) (o : Options) : (o.update c).setAll gs = o.setAll gs := by
  induction gs generalizing o with
  | nil => simp at hlater
  | cons g' gs ih =>
    rw [setAll, setAll, set_eq, set_eq]
    cases hread' : Setting.read g' with
    | error e => rfl
    | ok c' =>
      show ((o.update c).put c').bind (setAll gs) = (o.put c').bind (setAll gs)
      -- Either this option replaces the setting, or it leaves it to an option further on.
      by_cases hsame : c.subject = c'.subject
      · have hc' : c'.Replaceable := fun d => hsame ▸ hc d
        rw [put_replaceable hc', put_replaceable hc', update_again hsame]
      · have hlater' : ∃ g' ∈ gs, g'.1 = g.1 := by
          obtain ⟨g₁, hg₁, hflag⟩ := hlater
          rcases List.mem_cons.1 hg₁ with rfl | hg₁
          · exact absurd (Setting.subject_eq_of_read hread hread' hflag.symm) hsame
          · exact ⟨g₁, hg₁, hflag⟩
        rw [put_update hsame]
        cases o.put c' with
        | error e => rfl
        | ok o₁ => exact ih hlater' o₁

theorem setAll_adds {ss ss' : List Spelling} (h : Adds ss ss') (o : Options) :
    o.setAll (ss'.map Spelling.option) = o.setAll (ss.map Spelling.option) := by
  induction h generalizing o with
  | nil => rfl
  | same s _ ih => exact congrArg (o.set s.option.2 s.option.1).bind (funext ih)
  | @replaced s s' c ss ss' hsays hc hmem hflag _ ih =>
    rw [List.map_cons, setAll, set_eq, hsays]
    show (o.put c).bind (setAll (ss'.map Spelling.option)) = o.setAll (ss.map Spelling.option)
    rw [put_replaceable hc]
    exact (setAll_update hsays hc ⟨_, List.mem_map_of_mem hmem, hflag⟩ o).trans (ih o)

end Options

/-! ### Documents that are given twice -/

/-- An option gives a document, inline or by a path. -/
def Spelling.Gives (s : Spelling) (d : Document) : Prop :=
  s.option.1 = d.inlineFlag ∨ s.option.1 = d.pathFlag

theorem Spelling.Gives.says {s : Spelling} {d : Document} (h : s.Gives d) :
    ∃ source, s.Says (.document d source) := by
  unfold Spelling.Gives at h
  unfold Spelling.Says
  generalize s.option = g at h
  obtain ⟨f, v⟩ := g
  obtain (rfl : f = d.inlineFlag) | (rfl : f = d.pathFlag) := h
  · exact ⟨_, Setting.read_inlineFlag d v⟩
  · exact ⟨_, Setting.read_pathFlag d v⟩

namespace Options

variable {o o' : Options} {d : Document} {gs : List (Flag × Text)}

theorem isSome_source?_setAll (h : (o.source? d).isSome) (hset : o.setAll gs = .ok o') :
    (o'.source? d).isSome := by
  induction gs generalizing o with
  | nil =>
    cases hset
    exact h
  | cons g gs ih =>
    obtain ⟨o₁, h₁, hset⟩ := bind_eq_ok hset
    rw [set_eq] at h₁
    obtain ⟨c, -, hput⟩ := bind_eq_ok h₁
    obtain ⟨-, rfl⟩ := put_eq_ok_iff.1 hput
    exact ih (isSome_source?_update c h) hset

theorem isSome_source?_of_gives {pre mid : List Spelling} {s : Spelling} (h : s.Gives d)
    (hset : o.setAll ((pre ++ s :: mid).map Spelling.option) = .ok o') : (o'.source? d).isSome := by
  rw [List.map_append, setAll_append] at hset
  obtain ⟨o₁, -, hset⟩ := bind_eq_ok hset
  obtain ⟨o₂, h₂, hset⟩ := bind_eq_ok hset
  obtain ⟨source, hsays⟩ := h.says
  rw [set_eq, hsays] at h₂
  obtain ⟨-, rfl⟩ := put_eq_ok_iff.1 h₂
  exact isSome_source?_setAll (by rw [source?_update_document]; rfl) hset

end Options

/-! ### Requests -/

/-- A setting as an option in two words. -/
def Setting.spelling (c : Setting) : Spelling := .separate c.option.1 c.option.2

/-- The words of a request's settings, in any order, ask for this request. What a line asks for
stays the same if options are added that later ones replace. A line in which a document is given
twice, however it is written, ends in an error, that of the document if there is no fault before. -/
theorem requests_read_back {r : RenderRequest} (htemplate : r.template ≠ .file ['-'])
    (hargs : r.args ≠ some (.file ['-'])) :
    (∀ cs : List Setting, cs.Perm r.settings →
      Command.read ("render".toList :: spelled (cs.map Setting.spelling)) = .ok (.render r)) ∧
    (∀ ss ss' words, Adds ss ss' →
      Command.read ("render".toList :: (spelled ss' ++ words)) =
        Command.read ("render".toList :: (spelled ss ++ words))) ∧
    ∀ (d : Document) (s s' : Spelling), s.Gives d → s'.Gives d → ∀ pre mid words, ∃ e,
      Command.read ("render".toList :: (spelled (pre ++ s :: mid) ++ (s'.words ++ words))) =
        .error e ∧
      (e = d.repeated ∨
        ({} : Options).setAll ((pre ++ s :: mid).map Spelling.option) = .error e) := by
  refine ⟨fun cs hcs => ?_, fun ss ss' words hadds => ?_, fun d s s' hs hs' pre mid words => ?_⟩
  · have hput := Options.putAll_perm hcs.symm r.settings_distinct r.putAll_settings
    have hnameable : ∀ c ∈ cs, c.Nameable := fun c hc =>
      RenderRequest.settings_nameable htemplate hargs c (hcs.mem_iff.1 hc)
    have hoption : Spelling.option ∘ Setting.spelling = Setting.option := rfl
    have hread := read_render_append (cs.map Setting.spelling) []
    rw [List.append_nil, List.map_map, hoption, Options.setAll_option hnameable, hput] at hread
    exact hread
  · rw [read_render_append, read_render_append, Options.setAll_adds hadds]
  · rw [read_render_append]
    cases hset : ({} : Options).setAll ((pre ++ s :: mid).map Spelling.option) with
    | error e => exact ⟨e, rfl, .inr rfl⟩
    | ok o =>
      obtain ⟨source, hsays⟩ := hs'.says
      have herror : o.set s'.option.2 s'.option.1 = .error d.repeated := by
        rw [Options.set_eq, hsays]
        exact Options.put_document_given (Options.isSome_source?_of_gives hs hset) source
      refine ⟨d.repeated, ?_, .inl rfl⟩
      show (Options.read Flag.all (s'.words ++ words) o).bind _ = _
      rw [read_spelling, herror]
      rfl

/-- A request whose values look like flags. -/
def flagLike : RenderRequest :=
  ⟨some "-h".toList, .stdin, some (.inline "--args".toList), some .ansi, some "--template".toList⟩

/-- In the reverse order; with a skip token and a dialect that are replaced; and
with another template. -/
theorem requests_read_back_of_flagLike :
    flagLike.template ≠ .file ['-'] ∧ flagLike.args ≠ some (.file ['-']) ∧
    flagLike.settings.reverse.Perm flagLike.settings ∧
    Command.read ["render".toList, "--skip-token".toList, "--template".toList, "--dialect".toList,
      "ansi".toList, "--args".toList, "--args".toList, "--template-file".toList, "-".toList,
      "--config".toList, "-h".toList] = .ok (.render flagLike) ∧
    Adds [.attached .dialect "ansi".toList]
      [.separate .dialect "SQLite".toList, .attached .dialect "ansi".toList] ∧
    Command.read ["render".toList, "--dialect".toList, "SQLite".toList, "--dialect=ansi".toList,
      "--help".toList] = Command.read ["render".toList, "--dialect=ansi".toList, "--help".toList] ∧
    ∃ e, Command.read ["render".toList, "?d".toList, "--args=[]".toList, "--template-file".toList,
      "-".toList] = .error e := by
  have htemplate : flagLike.template ≠ .file ['-'] := by decide
  have hargs : flagLike.args ≠ some (.file ['-']) := by decide
  have hperm : flagLike.settings.reverse.Perm flagLike.settings := List.reverse_perm _
  have hadds : Adds [.attached .dialect "ansi".toList]
      [.separate .dialect "SQLite".toList, .attached .dialect "ansi".toList] :=
    .replaced (c := .dialect .ansi) rfl nofun List.mem_cons_self rfl (.same _ .nil)
  obtain ⟨horder, hreplaced, htwice⟩ := requests_read_back htemplate hargs
  obtain ⟨e, he, -⟩ :=
    htwice .template (.bare "?d".toList rfl) (.separate .templateFile ['-']) (.inl rfl) (.inr rfl)
      [] [.attached .args "[]".toList] []
  exact ⟨htemplate, hargs, hperm, horder _ hperm, hadds,
    hreplaced _ _ ["--help".toList] hadds, e, he⟩

end SqlTemplate.CommandLine
