import SqlTemplate.Proofs.CommandLine.Options
import SqlTemplate.Proofs.Outcome

/-! Options as they are written on the command line of a rendering: a flag and its value in two
words or in one, or a template without a flag. However an option is written, reading it sets it, and
reading a line of options sets them one after the other. Every line is one of options, up to where
it ends in a fault or a request for help, so a line that is accepted is one altogether. -/

namespace SqlTemplate.CommandLine

variable {f : Flag} {o : Options} {v word : Text}

/-! ### Ways to write an option -/

/-- An option of a rendering as it is written. A template without a flag must not look
like an option. -/
inductive Spelling where
  | separate (f : Flag) (v : Text)
  | attached (f : Flag) (v : Text)
  | bare (template : Text) (h : isOption template = false)

namespace Spelling

def words : Spelling → List Text
  | .separate f v => [f.name.toList, v]
  | .attached f v => [f.assignment ++ v]
  | .bare template _ => [template]

/-- The flag that is set and the value it gets. -/
def option : Spelling → Flag × Text
  | .separate f v => (f, v)
  | .attached f v => (f, stripRepeated f.assignment v.length v)
  | .bare template _ => (.template, template)

end Spelling

/-- The words of options that are written one after the other. -/
def spelled (ss : List Spelling) : List Text := ss.flatMap Spelling.words

/-- Sets options one after the other, up to the first that cannot be set. -/
def Options.setAll : List (Flag × Text) → Options → Except UsageError Options
  | [], o => .ok o
  | g :: gs, o => (o.set g.2 g.1).bind (setAll gs)

/-! ### Reading them -/

theorem mem_all (f : Flag) : f ∈ Flag.all := by
  cases f <;> decide

theorem isOption_name (f : Flag) : isOption f.name.toList := by
  cases f <;> rfl

theorem isOption_assignment (f : Flag) (v : Text) : isOption (f.assignment ++ v) := by
  cases f <;> rfl

theorem isHelp_of_not_isOption (h : isOption word = false) : isHelp word = false := by
  have hshort : word ≠ "-h".toList := by
    rintro rfl
    cases h
  have hlong : word ≠ "--help".toList := by
    rintro rfl
    cases h
  rw [isHelp, decide_eq_false hshort, decide_eq_false hlong]
  rfl

theorem flag?_of_not_isOption (h : isOption word = false) (allowed : List Flag) :
    flag? allowed word = none := by
  refine List.findSome?_eq_none_iff.2 fun f _ => ?_
  have hname : f.name.toList ≠ word := by
    rintro rfl
    rw [isOption_name] at h
    cases h
  have hattached : Text.after? f.assignment word = none := by
    refine Option.eq_none_iff_forall_ne_some.2 fun v hv => ?_
    rw [Text.after?_eq_some hv, isOption_assignment] at h
    cases h
  rw [if_neg hname, attached?, hattached]
  rfl

theorem attached?_append (f : Flag) (v : Text) :
    attached? f (f.assignment ++ v) = some (stripRepeated f.assignment v.length v) := by
  rw [attached?, Text.after?_append]
  rfl

/-- However an option is written, its words set its flag. -/
theorem read_spelling (s : Spelling) (words : List Text) (o : Options) :
    Options.read Flag.all (s.words ++ words) o =
      (o.set s.option.2 s.option.1).bind (Options.read Flag.all words) := by
  cases s with
  | separate f v => exact read_pair (mem_all f) v words o
  | attached f v =>
    obtain ⟨k, w, rfl, hw⟩ := exists_replicate_append (assignment_ne_nil f) v
    have hvalue := (attached?_append f _).symm.trans (attached?_assignment k hw)
    rw [Spelling.option, Option.some.inj hvalue]
    exact read_assignment (mem_all f) k hw words o
  | bare t h =>
    rw [Spelling.words, List.singleton_append, Options.read, isHelp_of_not_isOption h,
      flag?_of_not_isOption h, h]
    rfl

theorem read_spelled (ss : List Spelling) (words : List Text) (o : Options) :
    Options.read Flag.all (spelled ss ++ words) o =
      (o.setAll (ss.map Spelling.option)).bind (Options.read Flag.all words) := by
  induction ss generalizing o with
  | nil => rfl
  | cons s ss ih =>
    rw [spelled, List.flatMap_cons, List.append_assoc, read_spelling, List.map_cons, Options.setAll]
    cases o.set s.option.2 s.option.1 with
    | error e => rfl
    | ok o' => exact ih o'

theorem setAll_append (gs gs' : List (Flag × Text)) (o : Options) :
    o.setAll (gs ++ gs') = (o.setAll gs).bind (Options.setAll gs') := by
  induction gs generalizing o with
  | nil => rfl
  | cons g gs ih =>
    rw [List.cons_append, Options.setAll, Options.setAll]
    cases o.set g.2 g.1 with
    | error e => rfl
    | ok o' => exact ih o'

/-- Behind options, the other words are read with what the options leave. -/
theorem read_render_append (ss : List Spelling) (words : List Text) :
    Command.read ("render".toList :: (spelled ss ++ words)) =
      (({} : Options).setAll (ss.map Spelling.option)).bind fun o =>
        (Options.read Flag.all words o).bind fun
        | some o => o.toRender
        | none => .ok (.help .render) := by
  show readRender (spelled ss ++ words) = _
  rw [readRender, read_spelled]
  cases ({} : Options).setAll (ss.map Spelling.option) with
  | error e => rfl
  | ok o => rfl

/-! ### Lines taken apart -/

/-- A line of options, up to words that are read to the same end whatever the options
before them are. -/
inductive Line : List Text → Prop
  | nil : Line []
  | ends {words : List Text} (x : Except UsageError (Option Options)) : (∀ o, x ≠ .ok (some o)) →
    (∀ o, Options.read Flag.all words o = x) → Line words
  | option (s : Spelling) {words : List Text} : Line words → Line (s.words ++ words)

theorem exists_append_of_flag? {allowed : List Flag} (h : flag? allowed word = some (f, some v)) :
    ∃ r, word = f.assignment ++ r := by
  obtain ⟨g, -, h⟩ := List.exists_of_findSome?_eq_some h
  split at h
  next => cases h
  next =>
    obtain ⟨v', hv', heq⟩ := Option.map_eq_some_iff.1 h
    cases heq
    obtain ⟨r, hr, -⟩ := Option.map_eq_some_iff.1 hv'
    exact ⟨r, Text.after?_eq_some hr⟩

theorem line (words : List Text) : Line words := by
  -- An option takes one word or two.
  induction words using (measure List.length).wf.induction with
  | h words ih =>
  cases words with
  | nil => exact .nil
  | cons word rest =>
    have hrest : Line rest := ih rest (Nat.lt_succ_self _)
    cases hhelp : isHelp word with
    | true => exact .ends (.ok none) (by simp) fun o => by rw [Options.read, if_pos hhelp]
    | false =>
      cases hflag : flag? Flag.all word with
      | none =>
        cases hoption : isOption word with
        | true =>
          refine .ends (.error (.unknownArgument word)) (by simp) fun o => ?_
          simp [Options.read, hhelp, hflag, hoption]
        | false => exact .option (.bare word hoption) hrest
      | some r =>
        obtain ⟨f, value⟩ := r
        cases value with
        | some v =>
          obtain ⟨r, rfl⟩ := exists_append_of_flag? hflag
          exact .option (.attached f r) hrest
        | none =>
          obtain ⟨-, rfl⟩ := exists_name_of_flag? hflag
          cases rest with
          | nil =>
            exact .ends (.error (.valueMissing f)) (by simp) fun o => by
              simp [Options.read, hhelp, hflag]
          | cons v rest =>
            have hshorter : rest.length < rest.length + 2 := by omega
            exact .option (.separate f v) (ih rest hshorter)

theorem exists_spelled_of_read {o' : Options} {words : List Text}
    (h : Options.read Flag.all words o = .ok (some o')) :
    ∃ ss, words = spelled ss ∧ o.setAll (ss.map Spelling.option) = .ok o' := by
  induction line words generalizing o with
  | nil =>
    cases h
    exact ⟨[], rfl, rfl⟩
  | ends x hx hread => exact absurd ((hread o).symm.trans h) (hx o')
  | option s _ ih =>
    rw [read_spelling] at h
    obtain ⟨o₁, h₁, h⟩ := bind_eq_ok h
    obtain ⟨ss, rfl, hset⟩ := ih h
    refine ⟨s :: ss, rfl, ?_⟩
    rw [List.map_cons, Options.setAll, h₁]
    exact hset

theorem toRender_eq_render {r : RenderRequest} (h : o.toRender = .ok (.render r)) :
    o = ⟨r.config, some r.template, r.args, r.dialect, r.skipToken⟩ := by
  obtain ⟨config, template, args, dialect, skipToken⟩ := o
  unfold Options.toRender at h
  cases template with
  | some t =>
    cases h
    rfl
  | none =>
    simp only at h
    split at h <;> cases h

theorem readCheck_ne_render (words : List Text) (r : RenderRequest) :
    readCheck words ≠ .ok (.render r) := by
  intro h
  obtain ⟨o?, -, h⟩ := map_eq_ok h
  cases o? with
  | none => cases h
  | some o =>
    simp only [Options.toCheck] at h
    split at h <;> cases h

/-- A line that asks for a rendering consists of options, which set what the request says. -/
theorem exists_spelled_of_read_render {r : RenderRequest} {words : List Text}
    (h : Command.read words = .ok (.render r)) :
    ∃ ss, words = "render".toList :: spelled ss ∧
      ({} : Options).setAll (ss.map Spelling.option) =
        .ok ⟨r.config, some r.template, r.args, r.dialect, r.skipToken⟩ := by
  cases words with
  | nil => cases h
  | cons word rest =>
    rw [Command.read] at h
    split at h
    next => cases h
    next =>
      split at h
      next hword =>
        obtain ⟨o?, hread, hrender⟩ := bind_eq_ok h
        cases o? with
        | none => cases hrender
        | some o =>
          obtain ⟨ss, rfl, hset⟩ := exists_spelled_of_read hread
          refine ⟨ss, by rw [hword], ?_⟩
          rw [hset, toRender_eq_render hrender]
      next =>
        split at h
        next => exact absurd h (readCheck_ne_render rest r)
        next => cases h

end SqlTemplate.CommandLine
