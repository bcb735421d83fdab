/-! Results that may be errors: the error alone, and results of composed computations taken
apart again. -/

namespace SqlTemplate

variable {ε α β : Type}

/-- The error of a computation that failed. -/
def failure? : Except ε α → Option ε
  | .ok _ => none
  | .error err => some err

@[simp] theorem failure?_ok (a : α) : failure? (.ok a : Except ε α) = none := rfl

@[simp] theorem failure?_error (err : ε) : failure? (.error err : Except ε α) = some err := rfl

@[simp] theorem failure?_map (f : α → β) (x : Except ε α) : failure? (x.map f) = failure? x := by
  cases x <;> rfl

/-- Two computations of which the second does not need the first fail with the first failure. -/
theorem failure?_bind_map {γ : Type} (x : Except ε α) (y : Except ε β) (f : α → β → γ) :
    failure? (x.bind fun a => y.map (f a)) = (failure? x).or (failure? y) := by
  cases x <;> cases y <;> rfl

theorem findSome?_id_cons (o : Option ε) (os : List (Option ε)) :
    (o :: os).findSome? id = o.or (os.findSome? id) := by
  cases o <;> rfl

theorem failure?_eq_some_iff {x : Except ε α} {err : ε} :
    failure? x = some err ↔ x = .error err := by
  cases x <;> simp

theorem failure?_eq_none_iff {x : Except ε α} : failure? x = none ↔ ∃ a, x = .ok a := by
  cases x <;> simp

theorem mapError_map {ε' : Type} (f : α → β) (g : ε → ε') (x : Except ε α) :
    (x.map f).mapError g = (x.mapError g).map f := by
  cases x <;> rfl

theorem map_eq_ok {f : α → β} {x : Except ε α} {b : β} (h : x.map f = .ok b) :
    ∃ a, x = .ok a ∧ f a = b := by
  cases x with
  | error err => cases h
  | ok a => cases h; exact ⟨a, rfl, rfl⟩

theorem bind_eq_ok {f : α → Except ε β} {x : Except ε α} {b : β} (h : x.bind f = .ok b) :
    ∃ a, x = .ok a ∧ f a = .ok b := by
  cases x with
  | error err => cases h
  | ok a => exact ⟨a, rfl, h⟩

end SqlTemplate
