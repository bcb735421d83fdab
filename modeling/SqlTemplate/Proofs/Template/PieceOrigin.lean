import SqlTemplate.Proofs.Template.Binding
import SqlTemplate.Proofs.Template.Pieces

/-! Where the pieces of the output come from. Every fragment is what one placeholder writes for the
argument bound to it, and which characters and fragments there are, in which order,
depends on the template and the places of the skip markers alone. -/

namespace SqlTemplate.Template

/-- The character of the template that a piece is, if it is one. -/
def Piece.char? : Piece → Option Char
  | .literal c => some c
  | .fragment _ => none

/-- The characters of the template among the pieces. -/
def literals (ps : List Piece) : Text := ps.filterMap Piece.char?

/-- Something holds of each fragment and the pieces in front of it. -/
def EachFragment (P : List Piece → Text → Prop) (ps : List Piece) : Prop :=
  ∀ pre w post, ps = pre ++ .fragment w :: post → P pre w

variable {e : Escaper} {w : Text}

/-! ### Fragments -/

theorem fragment_of_mem_fillFrom {marked : Bool} {run : Text} {args : List Value}
    (h : .fragment w ∈ fillFrom e marked run args) :
    ∃ (i : Nat) (kind : Placeholder) (arg : Value),
      (kinds run)[i]? = some kind ∧ args[i]? = some arg ∧ w = writtenFor e kind arg := by
  induction run generalizing marked args with
  | nil => simp [fillFrom] at h
  | cons c r ih =>
    simp only [fillFrom] at h
    split at h
    next hletter =>
      rw [Bool.and_eq_true] at hletter
      have hq : c ≠ '?' := by
        rintro rfl
        exact absurd hletter.2 (by decide)
      simpa [kinds, hq] using ih h
    next =>
      split at h
      next hq =>
        cases args with
        | nil => simp at h
        | cons arg rest =>
          rcases List.mem_cons.1 h with hw | h
          · cases hw
            exact ⟨0, _, arg, by simp [kinds, hq], rfl, rfl⟩
          · obtain ⟨i, kind, arg', hk, ha, rfl⟩ := ih h
            exact ⟨i + 1, kind, arg', by simpa [kinds, hq] using hk, by simpa using ha, rfl⟩
      next hq =>
        have h : Piece.fragment w ∈ fillFrom e false r args := by simpa using h
        simpa [kinds, hq] using ih h

theorem kinds_eq_flatMap_runs (t : Text) : kinds t = (runs t).flatMap kinds := by
  induction t with
  | nil => rfl
  | cons c r ih =>
    obtain ⟨run, rest, hr⟩ := exists_runs r
    by_cases hc : isBrace c
    · have hq : c ≠ '?' := by
        rintro rfl
        exact absurd hc (by decide)
      simp [runs_brace hc, kinds, hq, ih]
    · rw [runs_cons (by simpa using hc) hr]
      rw [hr, List.flatMap_cons] at ih
      by_cases hq : c = '?'
      · simp [kinds, hq, ih, (suffix_of_run hr).1]
      · simp [kinds, hq, ih]

theorem fragment_of_mem_fillRuns {inside : Bool} {rs : List Text} {args : List Value}
    (h : .fragment w ∈ fillRuns e inside rs args) :
    ∃ (i : Nat) (kind : Placeholder) (arg : Value),
      (rs.flatMap kinds)[i]? = some kind ∧ args[i]? = some arg ∧ w = writtenFor e kind arg := by
  induction rs generalizing inside args with
  | nil => simp [fillRuns] at h
  | cons run rs ih =>
    simp only [fillRuns, List.mem_append] at h
    rcases h with h | h
    · have h : Piece.fragment w ∈ fill e run (args.take (run.count '?')) := by
        split at h
        next => simp at h
        next => exact h
      obtain ⟨i, kind, arg, hk, ha, rfl⟩ := fragment_of_mem_fillFrom h
      have hi := (List.getElem?_eq_some_iff.1 hk).1
      refine ⟨i, kind, arg, by rw [List.flatMap_cons, List.getElem?_append_left hi, hk], ?_, rfl⟩
      rwa [List.getElem?_take_of_lt (by rwa [length_kinds] at hi)] at ha
    · obtain ⟨i, kind, arg, hk, ha, rfl⟩ := ih h
      refine ⟨run.count '?' + i, kind, arg, ?_, by rwa [List.getElem?_drop] at ha, rfl⟩
      rw [List.flatMap_cons, List.getElem?_append_right (by simp [length_kinds])]
      simpa [length_kinds] using hk

/-- A fragment of the output is what one placeholder writes for its argument. -/
theorem binds_of_mem_pieces {t : Text} {args : List Value} (h : .fragment w ∈ pieces e t args) :
    ∃ u v arg, Binds t args u v arg ∧ w = writtenFor e (Placeholder.before v) arg := by
  obtain ⟨i, kind, arg, hk, ha, rfl⟩ := fragment_of_mem_fillRuns h
  rw [← kinds_eq_flatMap_runs] at hk
  obtain ⟨u, v, hb, rfl⟩ := binds_of_getElem? hk ha
  exact ⟨u, v, arg, hb, rfl⟩

/-! ### The order of characters and fragments -/

theorem map_char?_fillFrom (marked : Bool) (run : Text) {args args' : List Value}
    (h : args.length = args'.length) :
    (fillFrom e marked run args).map Piece.char? =
      (fillFrom e marked run args').map Piece.char? := by
  induction run generalizing marked args args' with
  | nil => rfl
  | cons c r ih =>
    simp only [fillFrom]
    split
    next => exact ih false h
    next =>
      split
      next =>
        cases args <;> cases args' <;> simp at h
        case nil.nil => rfl
        case cons.cons arg rest arg' rest' => simpa [Piece.char?] using ih true h
      next => simpa [Piece.char?] using ih false h

theorem any_isSkip_congr {args args' : List Value}
    (h : args.map Value.isSkip = args'.map Value.isSkip) :
    args.any Value.isSkip = args'.any Value.isSkip := by
  have hany (l : List Value) : l.any Value.isSkip = (l.map Value.isSkip).any id := by
    simp [List.any_map]
  rw [hany, hany, h]

theorem map_char?_fillRuns (inside : Bool) (rs : List Text) {args args' : List Value}
    (h : args.map Value.isSkip = args'.map Value.isSkip) :
    (fillRuns e inside rs args).map Piece.char? = (fillRuns e inside rs args').map Piece.char? := by
  induction rs generalizing inside args args' with
  | nil => rfl
  | cons run rs ih =>
    have htake : (args.take (run.count '?')).map Value.isSkip =
        (args'.take (run.count '?')).map Value.isSkip := by
      rw [List.map_take, List.map_take, h]
    have hdrop : (args.drop (run.count '?')).map Value.isSkip =
        (args'.drop (run.count '?')).map Value.isSkip := by
      rw [List.map_drop, List.map_drop, h]
    have hlength : (args.take (run.count '?')).length = (args'.take (run.count '?')).length := by
      simpa using congrArg List.length htake
    simp only [fillRuns, List.map_append, ih (!inside) hdrop, any_isSkip_congr htake]
    congr 1
    split
    next => rfl
    next => exact map_char?_fillFrom false run hlength

theorem map_char?_pieces (t : Text) {args args' : List Value}
    (h : args.map Value.isSkip = args'.map Value.isSkip) :
    (pieces e t args).map Piece.char? = (pieces e t args').map Piece.char? :=
  map_char?_fillRuns false (runs t) h

/-! ### Each fragment -/

variable {P : List Piece → Text → Prop} {ps : List Piece}

theorem eachFragment_nil : EachFragment P [] := by
  intro pre w post hps
  simp at hps

theorem eachFragment_literal (c : Char) :
    EachFragment P (.literal c :: ps) ↔ EachFragment (fun pre => P (.literal c :: pre)) ps := by
  constructor
  · intro h pre w post hps
    exact h (.literal c :: pre) w post (by rw [hps]; rfl)
  · rintro h (_ | ⟨q, pre⟩) w post hps
    · cases hps
    · obtain ⟨rfl, htail⟩ := List.cons.inj hps
      exact h pre w post htail

theorem eachFragment_fragment (w : Text) :
    EachFragment P (.fragment w :: ps) ↔
      P [] w ∧ EachFragment (fun pre => P (.fragment w :: pre)) ps := by
  constructor
  · intro h
    exact ⟨h [] w ps rfl, fun pre w' post hps => h (.fragment w :: pre) w' post (by rw [hps]; rfl)⟩
  · rintro ⟨hw, h⟩ (_ | ⟨q, pre⟩) w' post hps
    · obtain ⟨heq, -⟩ := List.cons.inj hps
      cases heq
      exact hw
    · obtain ⟨rfl, htail⟩ := List.cons.inj hps
      exact h pre w' post htail

instance EachFragment.decidable {P : List Piece → Text → Prop} [∀ pre w, Decidable (P pre w)] :
    (ps : List Piece) → Decidable (EachFragment P ps)
  | [] => .isTrue eachFragment_nil
  | .literal c :: ps =>
    haveI := EachFragment.decidable (P := fun pre => P (.literal c :: pre)) ps
    decidable_of_iff _ (eachFragment_literal c).symm
  | .fragment w :: ps =>
    haveI := EachFragment.decidable (P := fun pre => P (.fragment w :: pre)) ps
    decidable_of_iff _ (eachFragment_fragment w).symm

end SqlTemplate.Template
