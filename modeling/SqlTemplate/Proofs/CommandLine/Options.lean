import SqlTemplate.CommandLine.Options

/-! The two ways to give a flag its value. A value that stands in one word with its flag is read as
the one that stands in the next word, less the repetitions of the flag and its equals
sign that it begins with. What is said of one option holds in the middle of any command line,
as long as the words before it do not end with a flag that still waits for its value. -/

namespace SqlTemplate.CommandLine

/-- The commands that take options, and the flags they know. -/
def commandFlags : List (Text × List Flag) :=
  [("render".toList, Flag.all), ("check".toList, [.templateFile])]

/-- Words after which an option can stand: every flag among them that takes the next word as its
value has one. -/
inductive Whole (allowed : List Flag) : List Text → Prop
  | nil : Whole allowed []
  | word {word : Text} {words : List Text} : (∀ f ∈ allowed, word ≠ f.name.toList) →
    Whole allowed words → Whole allowed (word :: words)
  | pair {f : Flag} {v : Text} {words : List Text} : f ∈ allowed → Whole allowed words →
    Whole allowed (f.name.toList :: v :: words)

variable {allowed : List Flag} {f g : Flag} {o : Options} {v w word : Text}
  {pre words words' : List Text}

/-! ### Values in one word with their flag -/

/-- Repetitions of a beginning are taken off as long as the steps suffice, and nothing else. -/
theorem stripRepeated_replicate {start : Text} {k n : Nat} (hk : k ≤ n) (hw : ¬start <+: w) :
    stripRepeated start n ((List.replicate k start).flatten ++ w) = w := by
  induction k generalizing n with
  | zero =>
    cases n with
    | zero => rfl
    | succ n =>
      cases hafter : Text.after? start w with
      | none => simp [stripRepeated, hafter]
      | some r => exact absurd ⟨r, (Text.after?_eq_some hafter).symm⟩ hw
  | succ k ih =>
    obtain ⟨n, rfl⟩ : ∃ m, n = m + 1 := ⟨n - 1, by omega⟩
    rw [List.replicate_succ, List.flatten_cons, List.append_assoc, stripRepeated,
      Text.after?_append]
    exact ih (by omega)

/-- Every text begins with some number of repetitions, which what follows does not go on with. -/
theorem exists_replicate_append {start : Text} (hstart : start ≠ []) (v : Text) :
    ∃ k w, v = (List.replicate k start).flatten ++ w ∧ ¬start <+: w := by
  by_cases hv : start <+: v
  · obtain ⟨r, rfl⟩ := hv
    have hshorter : r.length < (start ++ r).length := by
      rw [List.length_append]
      exact Nat.lt_add_of_pos_left (List.length_pos_iff.2 hstart)
    obtain ⟨k, w, hr, hw⟩ := exists_replicate_append hstart r
    refine ⟨k + 1, w, ?_, hw⟩
    rw [List.replicate_succ, List.flatten_cons, List.append_assoc, ← hr]
  · exact ⟨0, v, rfl, hv⟩
termination_by v.length

theorem assignment_ne_nil (f : Flag) : f.assignment ≠ [] := by
  simp [Flag.assignment]

theorem attached?_assignment (k : Nat) (hw : ¬f.assignment <+: w) :
    attached? f (f.assignment ++ ((List.replicate k f.assignment).flatten ++ w)) = some w := by
  have hk : k ≤ ((List.replicate k f.assignment).flatten ++ w).length := by
    have hpos := List.length_pos_iff.2 (assignment_ne_nil f)
    have hmul : k * 1 ≤ k * f.assignment.length := Nat.mul_le_mul_left k hpos
    simp only [List.length_append, List.length_flatten, List.map_replicate, List.sum_replicate_nat]
    omega
  rw [attached?, Text.after?_append, Option.map_some, stripRepeated_replicate hk hw]

/-! ### Single words -/

/-- The names of flags and their assignments are told apart before the value begins. -/
theorem attached?_name (g f : Flag) : attached? g f.name.toList = none := by
  cases g <;> cases f <;> rfl

theorem attached?_of_ne (h : g ≠ f) (v : Text) : attached? g (f.assignment ++ v) = none := by
  cases g <;> cases f <;> first | rfl | exact absurd rfl h

theorem name_ne_assignment (g f : Flag) (v : Text) : g.name.toList ≠ f.assignment ++ v := by
  cases g <;> cases f <;> simp [Flag.name, Flag.assignment]

theorem name_injective (h : g.name.toList = f.name.toList) : g = f := by
  cases g <;> cases f <;> first | rfl | exact absurd h (by decide)

theorem isHelp_name (f : Flag) : isHelp f.name.toList = false := by
  cases f <;> rfl

theorem isHelp_assignment (f : Flag) (v : Text) : isHelp (f.assignment ++ v) = false := by
  cases f <;> simp [isHelp, Flag.name, Flag.assignment]

theorem findSome?_of_mem {α : Type} {p : Flag → Option α} {r : α} (hf : f ∈ allowed)
    (hown : p f = some r) (hother : ∀ g, g ≠ f → p g = none) : allowed.findSome? p = some r := by
  induction allowed with
  | nil => cases hf
  | cons g allowed ih =>
    rw [List.findSome?_cons]
    by_cases hg : g = f
    · rw [hg, hown]
    · rw [hother g hg]
      exact ih ((List.mem_cons.1 hf).resolve_left fun h => hg h.symm)

theorem flag?_name (hf : f ∈ allowed) : flag? allowed f.name.toList = some (f, none) := by
  refine findSome?_of_mem hf (by simp) fun g hg => ?_
  rw [if_neg fun h => hg (name_injective h), attached?_name, Option.map_none]

theorem flag?_assignment (hf : f ∈ allowed) (k : Nat) (hw : ¬f.assignment <+: w) :
    flag? allowed (f.assignment ++ ((List.replicate k f.assignment).flatten ++ w)) =
      some (f, some w) := by
  refine findSome?_of_mem hf ?_ fun g hg => ?_
  · rw [if_neg (name_ne_assignment f f _), attached?_assignment k hw, Option.map_some]
  · rw [if_neg (name_ne_assignment g f _), attached?_of_ne hg, Option.map_none]

theorem exists_name_of_flag? (h : flag? allowed word = some (f, none)) :
    f ∈ allowed ∧ word = f.name.toList := by
  obtain ⟨g, hg, h⟩ := List.exists_of_findSome?_eq_some h
  split at h
  next hname =>
    cases h
    exact ⟨hg, hname.symm⟩
  next =>
    obtain ⟨v, -, hv⟩ := Option.map_eq_some_iff.1 h
    cases hv

/-! ### Options -/

theorem read_pair (hf : f ∈ allowed) (v : Text) (words : List Text) (o : Options) :
    Options.read allowed (f.name.toList :: v :: words) o =
      (o.set v f).bind (Options.read allowed words) := by
  rw [Options.read, isHelp_name, flag?_name hf]
  rfl

/-- An option in one word is the option in two words with what is left of its value. -/
theorem read_assignment (hf : f ∈ allowed) (k : Nat) (hw : ¬f.assignment <+: w) (words : List Text)
    (o : Options) :
    Options.read allowed
        ((f.assignment ++ ((List.replicate k f.assignment).flatten ++ w)) :: words) o =
      (o.set w f).bind (Options.read allowed words) := by
  rw [Options.read, isHelp_assignment, flag?_assignment hf k hw]
  rfl

/-- A word that is no flag waiting for its value is read without the words behind it, so what
relates these relates the lines. -/
theorem read_word
    {R : Except UsageError (Option Options) → Except UsageError (Option Options) → Prop}
    (hrefl : ∀ x, R x x) (hword : ∀ f ∈ allowed, word ≠ f.name.toList)
    (h : ∀ o, R (Options.read allowed words o) (Options.read allowed words' o)) (o : Options) :
    R (Options.read allowed (word :: words) o) (Options.read allowed (word :: words') o) := by
  have hbind (x : Except UsageError Options) :
      R (x.bind (Options.read allowed words)) (x.bind (Options.read allowed words')) := by
    cases x with
    | error e => exact hrefl _
    | ok o' => exact h o'
  rw [Options.read, Options.read]
  split
  next => exact hrefl _
  next =>
    cases hflag : flag? allowed word with
    | none =>
      simp only
      split
      next => exact hrefl _
      next => exact hbind _
    | some r =>
      obtain ⟨f, value⟩ := r
      cases value with
      | some v => exact hbind _
      | none =>
        obtain ⟨hf, rfl⟩ := exists_name_of_flag? hflag
        exact absurd rfl (hword f hf)

theorem read_append_rel
    {R : Except UsageError (Option Options) → Except UsageError (Option Options) → Prop}
    (hrefl : ∀ x, R x x) (hpre : Whole allowed pre)
    (h : ∀ o, R (Options.read allowed words o) (Options.read allowed words' o)) (o : Options) :
    R (Options.read allowed (pre ++ words) o) (Options.read allowed (pre ++ words') o) := by
  induction hpre generalizing o with
  | nil => exact h o
  | word hword _ ih => exact read_word hrefl hword ih o
  | @pair f v pre hf _ ih =>
    simp only [List.cons_append]
    rw [read_pair hf, read_pair hf]
    cases o.set v f with
    | error e => exact hrefl _
    | ok o' => exact ih o'

/-- Where an option can stand, words that are read alike leave the same command line. -/
theorem read_append (hpre : Whole allowed pre)
    (h : ∀ o, Options.read allowed words o = Options.read allowed words' o)
    (o : Options) :
    Options.read allowed (pre ++ words) o = Options.read allowed (pre ++ words') o :=
  read_append_rel (fun _ => rfl) hpre h o

/-! ### Commands -/

theorem read_congr {command : Text} (hcommand : (command, allowed) ∈ commandFlags)
    (h : ∀ o, Options.read allowed words o = Options.read allowed words' o) :
    Command.read (command :: words) = Command.read (command :: words') := by
  have hread : Options.read allowed words {} = Options.read allowed words' {} := h {}
  simp only [commandFlags, List.mem_cons, List.not_mem_nil, or_false, Prod.mk.injEq] at hcommand
  rcases hcommand with ⟨rfl, rfl⟩ | ⟨rfl, rfl⟩
  · show readRender words = readRender words'
    rw [readRender, hread, readRender]
  · show readCheck words = readCheck words'
    rw [readCheck, hread, readCheck]

theorem read_assignment_append {command : Text} (hcommand : (command, allowed) ∈ commandFlags)
    (hf : f ∈ allowed) (hpre : Whole allowed pre) (k : Nat) (hw : ¬f.assignment <+: w)
    (post : List Text) :
    Command.read (command ::
        (pre ++ (f.assignment ++ ((List.replicate k f.assignment).flatten ++ w)) :: post)) =
      Command.read (command :: (pre ++ f.name.toList :: w :: post)) := by
  refine read_congr hcommand (read_append hpre fun o => ?_)
  rw [read_assignment hf k hw, read_pair hf]

/-- Wherever an option can stand, a flag with its value in one word asks for the same command, or
ends in the same error, as the flag with its value in the next word, unless the value begins with
the flag and its equals sign again. What does is read without these repetitions. -/
theorem read_attached_value {command : Text} (hcommand : (command, allowed) ∈ commandFlags)
    (hf : f ∈ allowed) (v : Text) :
    (¬f.assignment <+: v → ∀ pre post, Whole allowed pre →
      Command.read (command :: (pre ++ (f.assignment ++ v) :: post)) =
        Command.read (command :: (pre ++ f.name.toList :: v :: post))) ∧
    ∃ k w, v = (List.replicate k f.assignment).flatten ++ w ∧ ¬f.assignment <+: w ∧
    ∀ pre post, Whole allowed pre →
      Command.read (command :: (pre ++ (f.assignment ++ v) :: post)) =
        Command.read (command :: (pre ++ f.name.toList :: w :: post)) := by
  refine ⟨fun hv pre post hpre => read_assignment_append hcommand hf hpre 0 hv post, ?_⟩
  obtain ⟨k, w, rfl, hw⟩ := exists_replicate_append (assignment_ne_nil f) v
  exact ⟨k, w, rfl, hw, fun pre post hpre => read_assignment_append hcommand hf hpre k hw post⟩

/-- Behind a value that looks like a flag, with a value that does. -/
theorem read_attached_value_of_flag :
    ("render".toList, Flag.all) ∈ commandFlags ∧ Flag.template ∈ Flag.all ∧
    ¬Flag.template.assignment <+: "--args=?d".toList ∧
    Whole Flag.all ["--skip-token".toList, "--template".toList] ∧
    Command.read ["render".toList, "--skip-token".toList, "--template".toList,
        "--template=--args=?d".toList, "--dialect=oracle".toList] =
      Command.read ["render".toList, "--skip-token".toList, "--template".toList,
        "--template".toList, "--args=?d".toList, "--dialect=oracle".toList] := by
  have hcommand : ("render".toList, Flag.all) ∈ commandFlags := List.mem_cons_self
  have hf : Flag.template ∈ Flag.all := by decide
  have hv : ¬Flag.template.assignment <+: "--args=?d".toList := by decide
  have hpre : Whole Flag.all ["--skip-token".toList, "--template".toList] :=
    .pair (f := .skipToken) (by decide) .nil
  exact ⟨hcommand, hf, hv, hpre,
    (read_attached_value hcommand hf "--args=?d".toList).1 hv _ ["--dialect=oracle".toList] hpre⟩

/-- A value that is read without its beginning. -/
theorem read_repeated_assignment :
    Command.read ["render".toList, "--template=--template=?d".toList] =
      .ok (.render ⟨none, .inline "?d".toList, none, none, none⟩) ∧
    Command.read ["render".toList, "--template".toList, "--template=?d".toList] =
      .ok (.render ⟨none, .inline "--template=?d".toList, none, none, none⟩) ∧
    Command.read ["render".toList, "--template=--template=?d".toList] ≠
      Command.read ["render".toList, "--template".toList, "--template=?d".toList] := by
  have hattached : Command.read ["render".toList, "--template=--template=?d".toList] =
      .ok (.render ⟨none, .inline "?d".toList, none, none, none⟩) := rfl
  have hseparate : Command.read ["render".toList, "--template".toList, "--template=?d".toList] =
      .ok (.render ⟨none, .inline "--template=?d".toList, none, none, none⟩) := rfl
  refine ⟨hattached, hseparate, ?_⟩
  rw [hattached, hseparate]
  simp

end SqlTemplate.CommandLine
