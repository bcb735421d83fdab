import Mathlib.Data.List.Permutation
import SqlTemplate.CommandLine.Run
import SqlTemplate.Proofs.CommandLine.Sources
import SqlTemplate.Proofs.ConfigFile
import SqlTemplate.Proofs.Json.Arguments

/-! What the render command prints. It is said without the order of its steps: which
configuration is in force, whether there is a filter for the log, which texts the sources supply and
what the library builds from them. The command prints the text so described and a line end,
or nothing at all. Of the section on logging, only whether it has a filter matters. -/

namespace SqlTemplate.CommandLine

open ConfigFile (Valid WellFormed)

/-! ### What a rendering asks for -/

/-- The configuration for a path: that of the named file, else that of the default file, or the
defaults if nothing is found there. -/
inductive Configured (F : Formats) (w : Surroundings) : Option Text → ConfigFile → Prop
  | named {path raw : Text} {c : ConfigFile} :
    w.file path = .ok raw.encode → WellFormed F raw c → Configured F w (some path) c
  | present {raw : Text} {c : ConfigFile} : w.present "sqltpl.toml".toList = true →
    w.file "sqltpl.toml".toList = .ok raw.encode → WellFormed F raw c → Configured F w none c
  | absent : w.present "sqltpl.toml".toList = false →
    Configured F w none ⟨.mysql, none, ⟨"warn".toList, none, true⟩⟩

/-- The environment has a filter for the log, or else the level is one. -/
def Filtered (F : Formats) (w : Surroundings) (level : Text) : Prop :=
  (∃ t passes, w.logFilter = some t ∧ F.logFilter t = .ok passes) ∨
    ∃ passes, F.logFilter level = .ok passes

/-- The arguments that a source gives, the items of a JSON array; without a source there are
none. -/
inductive Gives (F : Formats) (w : Surroundings) (skipToken : Text) :
    Option Source → List Value → Prop
  | nothing : Gives F w skipToken none []
  | document {s : Source} {raw : Text} {items : List Json} {args : List Value} :
    w.Supplies s raw → F.json raw = .ok (.array items) →
    List.Forall₂ (Arguments.Becomes skipToken) items args → Gives F w skipToken (some s) args

/-- The text that a request renders: the library's, from the template and the arguments it names.
Flags go before the configuration, which goes before the defaults. -/
def Renders (F : Formats) (w : Surroundings) (r : RenderRequest) (sql : Text) : Prop :=
  ∃ c template args, Configured F w r.config c ∧ Valid c ∧ Filtered F w c.log.level ∧
    ¬ (r.template = .stdin ∧ r.args = some .stdin) ∧ w.Supplies r.template template ∧
    Gives F w (r.skipToken.getD (c.skipToken.getD "__SKIP__".toList)) r.args args ∧
    Template.build (r.dialect.getD c.dialect).escaper template args = .ok sql

namespace Outcome

/-- The command succeeds and prints a text with a line end. -/
def Prints (o : Outcome) (sql : Text) : Prop :=
  o.exit = 0 ∧ o.stdout = String.ofList sql ++ "\n"

/-- The command fails and prints nothing. -/
def Fails (o : Outcome) : Prop := o.exit = 1 ∧ o.stdout = ""

variable {o : Outcome} {sql sql' : Text}

theorem Prints.unique (h : o.Prints sql) (h' : o.Prints sql') : sql = sql' := by
  have heq : String.ofList sql ++ "\n" = String.ofList sql' ++ "\n" := h.2.symm.trans h'.2
  have htext := congrArg String.toList heq
  simpa using htext

theorem Fails.not_prints (h : o.Fails) : ¬ o.Prints sql := by
  intro hp
  have hexit := h.1
  rw [hp.1] at hexit
  exact absurd hexit (by decide)

end Outcome

variable {F : Formats} {w : Surroundings} {r : RenderRequest} {c : ConfigFile} {sql : Text}

/-! ### Preparation -/

theorem readConfig_eq_ok_iff {path : Text} :
    readConfig F w path = .ok c ↔
      ∃ raw, w.file path = .ok raw.encode ∧ WellFormed F raw c ∧ Valid c := by
  simp only [← ConfigFile.read_eq_ok_iff, ← Surroundings.fileText_eq_ok_iff]
  unfold readConfig
  cases w.fileText path with
  | error fault => simp
  | ok raw => cases hread : ConfigFile.read F raw <;> simp [hread]

theorem loadConfig_eq_ok_iff {path : Option Text} :
    loadConfig F w path = .ok c ↔ Configured F w path c ∧ Valid c := by
  constructor
  · intro h
    unfold loadConfig at h
    split at h
    next path =>
      obtain ⟨raw, hraw, hc, hvalid⟩ := readConfig_eq_ok_iff.1 h
      exact ⟨.named hraw hc, hvalid⟩
    next =>
      split at h
      next hpresent =>
        obtain ⟨raw, hraw, hc, hvalid⟩ := readConfig_eq_ok_iff.1 h
        exact ⟨.present hpresent hraw hc, hvalid⟩
      next habsent =>
        cases h
        exact ⟨.absent (Bool.eq_false_iff.2 habsent), ConfigFile.valid_default⟩
  · rintro ⟨hc, hvalid⟩
    cases hc with
    | named hraw hc => exact readConfig_eq_ok_iff.2 ⟨_, hraw, hc, hvalid⟩
    | present hpresent hraw hc =>
      exact (if_pos hpresent).trans (readConfig_eq_ok_iff.2 ⟨_, hraw, hc, hvalid⟩)
    | absent habsent => exact if_neg (Bool.eq_false_iff.1 habsent)

theorem exists_activeFilter_iff {level : Text} :
    (∃ passes, activeFilter F w level = .ok passes) ↔ Filtered F w level := by
  unfold activeFilter Filtered
  cases w.logFilter with
  | none => cases F.logFilter level <;> simp
  | some t => cases ht : F.logFilter t <;> cases F.logFilter level <;> simp [ht]

theorem readDocument_eq_ok_iff {what : String} {s : Source} {t : Text} :
    readDocument w what s = .ok t ↔ w.Supplies s t := by
  rw [← Surroundings.document_eq_ok_iff]
  unfold readDocument
  cases w.document s <;> simp

theorem readArguments_eq_ok_iff {skipToken : Text} {source : Option Source} {args : List Value} :
    readArguments F w skipToken source = .ok args ↔ Gives F w skipToken source args := by
  constructor
  · intro h
    cases source with
    | none =>
      cases h
      exact .nothing
    | some s =>
      obtain ⟨raw, hraw, h⟩ := bind_eq_ok h
      split at h
      next values hvalues =>
        cases h
        obtain ⟨items, hitems, hargs⟩ := Arguments.read_eq_ok_iff.1 hvalues
        exact .document (readDocument_eq_ok_iff.1 hraw) hitems hargs
      next => cases h
  · intro h
    cases h with
    | nothing => rfl
    | document hraw hitems hargs =>
      have hread : Arguments.read F skipToken _ = .ok args :=
        Arguments.read_eq_ok_iff.2 ⟨_, hitems, hargs⟩
      simp [readArguments, readDocument_eq_ok_iff.2 hraw, Except.bind, hread]

theorem setUp_eq_ok_iff {passes : Event → Bool} :
    setUp F w r = .ok (c, passes) ↔
      loadConfig F w r.config = .ok c ∧ activeFilter F w c.log.level = .ok passes ∧
      ¬ (r.template = .stdin ∧ r.args = some .stdin) := by
  constructor
  · intro h
    obtain ⟨c', hc, h⟩ := bind_eq_ok h
    obtain ⟨passes', hpasses, h⟩ := bind_eq_ok h
    split at h
    next => cases h
    next hstdin =>
      cases h
      exact ⟨hc, hpasses, hstdin⟩
  · rintro ⟨hc, hpasses, hstdin⟩
    simp only [setUp, hc, hpasses, if_neg hstdin, bind, Except.bind]

/-- A job is prepared if every step succeeds. -/
theorem prepare_eq_ok_iff {job : Job} :
    prepare F w r = .ok job ↔ ∃ c passes template args,
      loadConfig F w r.config = .ok c ∧ activeFilter F w c.log.level = .ok passes ∧
      ¬ (r.template = .stdin ∧ r.args = some .stdin) ∧
      readDocument w "template" r.template = .ok template ∧
      readArguments F w (r.skipToken.getD c.effectiveSkipToken) r.args = .ok args ∧
      job = ⟨passes, ⟨(r.dialect.getD c.dialect).escaper, c.settings⟩, template, args⟩ := by
  constructor
  · intro h
    obtain ⟨⟨c, passes⟩, hsetUp, h⟩ := bind_eq_ok h
    obtain ⟨hc, hpasses, hstdin⟩ := setUp_eq_ok_iff.1 hsetUp
    obtain ⟨template, htemplate, h⟩ := bind_eq_ok h
    obtain ⟨args, hargs, h⟩ := bind_eq_ok h
    cases h
    exact ⟨c, passes, template, args, hc, hpasses, hstdin, htemplate, hargs, rfl⟩
  · rintro ⟨c, passes, template, args, hc, hpasses, hstdin, htemplate, hargs, rfl⟩
    have hsetUp := setUp_eq_ok_iff.2 ⟨hc, hpasses, hstdin⟩
    simp only [prepare, hsetUp, htemplate, hargs, bind, Except.bind]
    rfl

/-! ### Results -/

theorem fails_failed (log : String) (f : Failure) : (failed log f).Fails := ⟨rfl, rfl⟩

theorem prints_of_renders (h : Renders F w r sql) : (runRender F w r).Prints sql := by
  obtain ⟨c, template, args, hc, hvalid, hfilter, hstdin, htemplate, hargs, hbuild⟩ := h
  obtain ⟨passes, hpasses⟩ := exists_activeFilter_iff.2 hfilter
  have hjob := prepare_eq_ok_iff.2 ⟨c, passes, template, args,
    loadConfig_eq_ok_iff.2 ⟨hc, hvalid⟩, hpasses, hstdin,
    readDocument_eq_ok_iff.2 htemplate, readArguments_eq_ok_iff.2 hargs, rfl⟩
  rw [runRender, hjob]
  simp only [Job.run, Session.build, hbuild]
  exact ⟨rfl, rfl⟩

/-- What fails without a text to print, prints nothing. -/
theorem fails_or_renders (F : Formats) (w : Surroundings) (r : RenderRequest) :
    (runRender F w r).Fails ∨ ∃ sql, Renders F w r sql := by
  cases hjob : prepare F w r with
  | error f =>
    rw [runRender, hjob]
    exact .inl (fails_failed "" f)
  | ok job =>
    obtain ⟨c, passes, template, args, hc, hpasses, hstdin, htemplate, hargs, rfl⟩ :=
      prepare_eq_ok_iff.1 hjob
    obtain ⟨hc, hvalid⟩ := loadConfig_eq_ok_iff.1 hc
    cases hbuild : Template.build (r.dialect.getD c.dialect).escaper template args with
    | error e =>
      rw [runRender, hjob]
      simp only [Job.run, Session.build, hbuild]
      exact .inl (fails_failed _ _)
    | ok sql =>
      exact .inr ⟨sql, c, template, args, hc, hvalid, exists_activeFilter_iff.1 ⟨passes, hpasses⟩,
        hstdin, readDocument_eq_ok_iff.1 htemplate, readArguments_eq_ok_iff.1 hargs, hbuild⟩

/-! ### Logging -/

theorem Configured.unique {path : Option Text} {c c' : ConfigFile} (h : Configured F w path c)
    (h' : Configured F w path c') : c = c' := by
  have hfile {path raw raw' : Text} (h : w.file path = .ok raw.encode)
      (h' : w.file path = .ok raw'.encode) : raw = raw' :=
    Except.ok.inj ((Surroundings.fileText_eq_ok_iff.2 h).symm.trans
      (Surroundings.fileText_eq_ok_iff.2 h'))
  cases h with
  | named ht hc =>
    cases h' with
    | named ht' hc' => exact hc.unique (hfile ht ht' ▸ hc')
  | present hpresent ht hc =>
    cases h' with
    | present _ ht' hc' => exact hc.unique (hfile ht ht' ▸ hc')
    | absent habsent => exact absurd hpresent (Bool.eq_false_iff.1 habsent)
  | absent habsent =>
    cases h' with
    | present hpresent _ _ => exact absurd hpresent (Bool.eq_false_iff.1 habsent)
    | absent => rfl

/-- Two runs of a request that differ in logging alone: their configurations agree but for the
section on it, the sources supply the same, and logging is set up in both or in neither. -/
structure SameButLog (F : Formats) (r : RenderRequest) (w w' : Surroundings) (c c' : ConfigFile) :
    Prop where
  configured : Configured F w r.config c
  configured' : Configured F w' r.config c'
  dialect : c.dialect = c'.dialect
  skipToken : c.skipToken = c'.skipToken
  template (t : Text) : w.Supplies r.template t ↔ w'.Supplies r.template t
  args {s : Source} (t : Text) : r.args = some s → (w.Supplies s t ↔ w'.Supplies s t)
  log : Valid c ∧ Filtered F w c.log.level ↔ Valid c' ∧ Filtered F w' c'.log.level

variable {w' : Surroundings} {c' : ConfigFile}

theorem Gives.congr {skipToken : Text} {source : Option Source} {args : List Value}
    (h : Gives F w skipToken source args)
    (hsupplies : ∀ s t, source = some s → w.Supplies s t → w'.Supplies s t) :
    Gives F w' skipToken source args := by
  cases h with
  | nothing => exact .nothing
  | document hraw hitems hargs => exact .document (hsupplies _ _ rfl hraw) hitems hargs

theorem SameButLog.symm (h : SameButLog F r w w' c c') : SameButLog F r w' w c' c where
  configured := h.configured'
  configured' := h.configured
  dialect := h.dialect.symm
  skipToken := h.skipToken.symm
  template t := (h.template t).symm
  args t hs := (h.args t hs).symm
  log := h.log.symm

theorem SameButLog.renders (h : SameButLog F r w w' c c') (hr : Renders F w r sql) :
    Renders F w' r sql := by
  obtain ⟨c₁, template, args, hc, hvalid, hfilter, hstdin, htemplate, hargs, hbuild⟩ := hr
  obtain rfl := h.configured.unique hc
  obtain ⟨hvalid', hfilter'⟩ := h.log.1 ⟨hvalid, hfilter⟩
  refine ⟨c', template, args, h.configured', hvalid', hfilter', hstdin,
    (h.template template).1 htemplate, ?_, ?_⟩
  · rw [← h.skipToken]
    exact hargs.congr fun s t hs => (h.args t hs).1
  · rw [← h.dialect]
    exact hbuild

/-- A run of the render command prints what it is asked to render, and otherwise it fails and prints
nothing. Logging takes part in this only through whether it can be set up. -/
theorem prints_iff_renders {words : List Text} {r : RenderRequest}
    (h : Command.read words = .ok (.render r)) (F : Formats) (w : Surroundings) :
    (∀ sql, (run F w words).Prints sql ↔ Renders F w r sql) ∧
    ((∀ sql, ¬ Renders F w r sql) → (run F w words).Fails) ∧
    ∀ w' c c', SameButLog F r w w' c c' →
      (run F w words).exit = (run F w' words).exit ∧
      (run F w words).stdout = (run F w' words).stdout := by
  have hrun (w : Surroundings) : run F w words = runRender F w r := by
    rw [run, h]
    rfl
  simp only [hrun]
  refine ⟨fun sql => ⟨fun hp => ?_, prints_of_renders⟩, fun hnone => ?_, fun w' c c' hsame => ?_⟩
  · rcases fails_or_renders F w r with hf | ⟨sql', hr⟩
    · exact absurd hp hf.not_prints
    · rwa [hp.unique (prints_of_renders hr)]
  · exact (fails_or_renders F w r).resolve_right fun ⟨sql, hr⟩ => hnone sql hr
  · by_cases hr : ∃ sql, Renders F w r sql
    · obtain ⟨sql, hr⟩ := hr
      have hp := prints_of_renders hr
      have hp' := prints_of_renders (hsame.renders hr)
      exact ⟨hp.1.trans hp'.1.symm, hp.2.trans hp'.2.symm⟩
    · have hf := (fails_or_renders F w r).resolve_right hr
      have hf' := (fails_or_renders F w' r).resolve_right fun ⟨sql, hr'⟩ =>
        hr ⟨sql, hsame.symm.renders hr'⟩
      exact ⟨hf.1.trans hf'.1.symm, hf.2.trans hf'.2.symm⟩

/-- In an empty directory, with a skip marker in the second block. -/
theorem prints_of_inline_documents :
    Command.read ["render".toList, "a\x7b = ?\x7d\x7b or ?d\x7d".toList,
        "--args=[true, \"__SKIP__\"]".toList] =
      .ok (.render ⟨none, .inline "a\x7b = ?\x7d\x7b or ?d\x7d".toList,
        some (.inline "[true, \"__SKIP__\"]".toList), none, none⟩) ∧
    (run .own (Directory.surroundings [] ByteArray.empty none "")
      ["render".toList, "a\x7b = ?\x7d\x7b or ?d\x7d".toList,
        "--args=[true, \"__SKIP__\"]".toList]).Prints "a = 1".toList := by
  have h : Command.read ["render".toList, "a\x7b = ?\x7d\x7b or ?d\x7d".toList,
        "--args=[true, \"__SKIP__\"]".toList] =
      .ok (.render ⟨none, .inline "a\x7b = ?\x7d\x7b or ?d\x7d".toList,
        some (.inline "[true, \"__SKIP__\"]".toList), none, none⟩) := rfl
  have hconfig :
      Configured .own (Directory.surroundings [] ByteArray.empty none "") none .default :=
    .absent rfl
  have hfilter : Filtered .own (Directory.surroundings [] ByteArray.empty none "") "warn".toList :=
    .inr ⟨_, Formats.own_logFilter (by decide +kernel : _ = some [.events [] 2])⟩
  have hitems : Formats.own.json "[true, \"__SKIP__\"]".toList =
      .ok (.array [.bool true, .string "__SKIP__".toList]) := by cbv
  have hargs : List.Forall₂ (Arguments.Becomes "__SKIP__".toList)
      [.bool true, .string "__SKIP__".toList] [.bool true, .skip] :=
    Arguments.forall₂_becomes_iff.2 rfl
  have hbuild : Template.build Escaper.mysql "a\x7b = ?\x7d\x7b or ?d\x7d".toList
      [.bool true, .skip] = .ok "a = 1".toList := rfl
  exact ⟨h, ((prints_iff_renders h _ _).1 _).2 ⟨.default, _, _, hconfig, ConfigFile.valid_default,
    hfilter, by simp, .inline _, .document (.inline _) hitems hargs, hbuild⟩⟩

end SqlTemplate.CommandLine
