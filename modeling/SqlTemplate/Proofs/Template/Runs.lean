import SqlTemplate.Proofs.Template.Binding
import SqlTemplate.Proofs.Template.Pieces

/-! Builds, run by run. The runs of a template between its braces, put together again, are the
template if the braces alternate; and it builds if besides each run takes the arguments
of its own question marks. What holds of a build can so be shown of one run at a time. -/

namespace SqlTemplate.Template

variable {e : Escaper} {t : Text} {args : List Value}

/-! ### Runs put together -/

/-- Runs that stand alternately outside and inside of blocks, with the braces between them. -/
def braced : Bool → List Text → Text
  | _, [] => []
  | _, [run] => run
  | inside, run :: run' :: runs =>
    run ++ (if inside then '\x7d' else '\x7b') :: braced (!inside) (run' :: runs)

@[simp] theorem braced_singleton (inside : Bool) (run : Text) : braced inside [run] = run := rfl

theorem braced_append (inside : Bool) (s run : Text) (rs : List Text) :
    braced inside ((s ++ run) :: rs) = s ++ braced inside (run :: rs) := by
  cases rs <;> simp [braced]

theorem braced_nil_cons (inside : Bool) {rs : List Text} (h : rs ≠ []) :
    braced inside ([] :: rs) = (if inside then '\x7d' else '\x7b') :: braced (!inside) rs := by
  cases rs with
  | nil => exact absurd rfl h
  | cons run rs => rfl

theorem runs_ne_nil (t : Text) : runs t ≠ [] := List.splitOnP_ne_nil isBrace t

/-- A question mark in front of a text whose runs are known stays in front of them, put together. -/
theorem braced_question_iff {inside : Bool} {r run : Text} {rs : List Text}
    (hr : runs (afterSuffix r) = run :: rs) :
    '?' :: r = braced inside (runs ('?' :: r)) ↔ afterSuffix r = braced inside (run :: rs) := by
  have hsplit : '?' :: r = '?' :: suffixOf r ++ afterSuffix r := by simp
  rw [runs_question hr, ← List.cons_append, braced_append, hsplit, List.append_cancel_left_eq]

theorem isBrace_of_mem_runs {t run : Text} (h : run ∈ runs t) {c : Char} (hc : c ∈ run) :
    isBrace c = false := by
  induction t generalizing run with
  | nil =>
    obtain rfl := List.mem_singleton.1 h
    simp at hc
  | cons d r ih =>
    by_cases hd : isBrace d
    · rw [runs_brace hd] at h
      rcases List.mem_cons.1 h with rfl | h
      · simp at hc
      · exact ih h hc
    · have hd : isBrace d = false := by simpa using hd
      obtain ⟨first, rest, hr⟩ := exists_runs r
      rw [runs_cons hd hr] at h
      rcases List.mem_cons.1 h with rfl | h
      · rcases List.mem_cons.1 hc with rfl | hc
        · exact hd
        · exact ih (by simp [hr]) hc
      · exact ih (by simp [hr, h]) hc

theorem runs_braced (inside : Bool) {rs : List Text} (hne : rs ≠ [])
    (h : ∀ run ∈ rs, ∀ c ∈ run, isBrace c = false) : runs (braced inside rs) = rs := by
  induction rs generalizing inside with
  | nil => exact absurd rfl hne
  | cons run rs ih =>
    have hrun := h run (by simp)
    cases rs with
    | nil => exact List.splitOnP_eq_singleton hrun
    | cons run' rs =>
      have hbrace : isBrace (if inside then '\x7d' else '\x7b') := by cases inside <;> rfl
      rw [braced, runs, List.splitOnP_append_cons_of_forall_mem hrun _ hbrace]
      exact congrArg (run :: ·) (ih (!inside) (by simp) fun r hr => h r (by simp [hr]))

/-! ### Builds, run by run -/

/-- A placeholder takes the skip marker if it stands in a block, and any other value if it
can write it. -/
def Takes (e : Escaper) (inside : Bool) (kind : Placeholder) (arg : Value) : Prop :=
  (arg.isSkip → inside) ∧ (arg.isSkip = false → ∃ w, fragment e kind arg = .ok w)

/-- The placeholders of a run take its arguments, one each. -/
def RunTakes (e : Escaper) (inside : Bool) (run : Text) (own : List Value) : Prop :=
  own.length = run.count '?' ∧ ∀ x ∈ (kinds run).zip own, Takes e inside x.1 x.2

/-- The runs take their arguments, with none left over, and the last of them stands
outside of blocks. -/
def RunsTake (e : Escaper) : Bool → List Text → List Value → Prop
  -- Past the last run, the inside of a block would be next.
  | inside, [], args => inside ∧ args = []
  | inside, run :: runs, args =>
    RunTakes e inside run (args.take (run.count '?')) ∧
    RunsTake e (!inside) runs (args.drop (run.count '?'))

theorem kinds_append {s : Text} (h : ∀ c ∈ s, isMark c = false) (r : Text) :
    kinds (s ++ r) = kinds r := by
  induction s with
  | nil => rfl
  | cons c s ih =>
    simp [kinds, ne_question_of_isMark (h c (by simp)), ih fun d hd => h d (by simp [hd])]

theorem runTakes_nil (inside : Bool) : RunTakes e inside [] [] := ⟨rfl, by simp⟩

theorem runsTake_nil_cons {inside : Bool} {rs : List Text} :
    RunsTake e inside ([] :: rs) args ↔ RunsTake e (!inside) rs args := by
  simp [RunsTake, runTakes_nil]

/-- Literal text in front of a run takes nothing. -/
theorem runsTake_append {inside : Bool} {s run : Text} {rs : List Text}
    (h : ∀ c ∈ s, isMark c = false) :
    RunsTake e inside ((s ++ run) :: rs) args ↔ RunsTake e inside (run :: rs) args := by
  have hs : s.count '?' = 0 := List.count_eq_zero.2 fun hq => by simpa [isMark] using h '?' hq
  simp [RunsTake, RunTakes, kinds_append h, hs]

/-- A question mark in front of a run takes the first argument. -/
theorem runsTake_question {inside : Bool} {r run : Text} {rs : List Text}
    (hr : runs (afterSuffix r) = run :: rs) (arg : Value) :
    RunsTake e inside (('?' :: (suffixOf r ++ run)) :: rs) (arg :: args) ↔
      Takes e inside (Placeholder.before r) arg ∧ RunsTake e inside (run :: rs) args := by
  have hbefore := (suffix_of_run (runs_afterSuffix hr)).1
  have hkinds := kinds_append (fun c hc => isMark_of_mem_suffixOf (r := r) hc) run
  simp [RunsTake, RunTakes, kinds, hbefore, hkinds, and_assoc, and_left_comm]

/-- A text builds from the middle of a template on if its braces alternate from there and its runs
take the arguments that are left. -/
theorem failure?_renderText_eq_none_iff {p index : Nat} {block : Option Block} :
    failure? (renderText e p t args index block) = none ↔
      t = braced block.isSome (runs t) ∧ RunsTake e block.isSome (runs t) args := by
  induction t using scanInduction generalizing p args index block with
  | nil =>
    have hruns : runs [] = [[]] := rfl
    cases block with
    | some b => simp [hruns, RunsTake]
    | none => cases args <;> simp [hruns, RunsTake, runTakes_nil]
  | opening r ih =>
    rw [runs_brace rfl, braced_nil_cons _ (runs_ne_nil r), runsTake_nil_cons]
    cases block with
    | some b => simp
    | none => simpa using @ih args (p + 1) index (some (.opened p))
  | closing r ih =>
    rw [runs_brace rfl, braced_nil_cons _ (runs_ne_nil r), runsTake_nil_cons]
    cases block with
    | none => simp
    | some b => simpa using @ih args (p + 1) index none
  | question r ih =>
    obtain ⟨run, rest, hr⟩ := exists_runs (afterSuffix r)
    rw [braced_question_iff hr, runs_question hr]
    cases args with
    | nil => simp [RunsTake, RunTakes]
    | cons arg args =>
      -- The mark fails on its own account, or it passes and the text after its letter decides.
      rw [runsTake_question hr, Takes]
      cases hs : arg.isSkip with
      | true =>
        obtain rfl := Value.eq_skip_of_isSkip hs
        cases block with
        | none => simp [renderText_question_skip_outside]
        | some b => simp [renderText_question_skip_inside, ih, hr, Block.suppress]
      | false =>
        cases hf : fragment e (Placeholder.before r) arg with
        | error reason => simp [renderText_question_refused hs hf]
        | ok w => cases block <;> simp [renderText_question_bound hs hf, ih, hr]
  | literal c r hc ih =>
    obtain ⟨run, rest, hr⟩ := exists_runs r
    have hc' : ∀ d ∈ [c], isMark d = false := by simpa using hc
    rw [renderText_literal hc, failure?_emit, ih, hr, runs_cons (isBrace_of_isMark hc) hr]
    have hbraced := braced_append block.isSome [c] run rest
    have htake : RunsTake e block.isSome (([c] ++ run) :: rest) args ↔
        RunsTake e block.isSome (run :: rest) args :=
      runsTake_append hc'
    rw [List.singleton_append] at hbraced htake
    rw [hbraced, htake, List.singleton_append, List.cons_inj_right]
    cases block <;> rfl

theorem build_eq_ok_iff_runsTake {s : Text} :
    build e t args = .ok s ↔
      t = braced false (runs t) ∧ RunsTake e false (runs t) args ∧
      s = written (pieces e t args) := by
  have hok : failure? (build e t args) = none ↔
      t = braced false (runs t) ∧ RunsTake e false (runs t) args :=
    failure?_renderText_eq_none_iff
  rw [failure?_eq_none_iff] at hok
  constructor
  · intro h
    obtain ⟨hbraced, htake⟩ := hok.1 ⟨s, h⟩
    exact ⟨hbraced, htake, eq_written_of_build h⟩
  · rintro ⟨hbraced, htake, rfl⟩
    obtain ⟨s, hs⟩ := hok.2 ⟨hbraced, htake⟩
    rw [hs, eq_written_of_build hs]

end SqlTemplate.Template
