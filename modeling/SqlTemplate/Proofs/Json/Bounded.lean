import SqlTemplate.Json.Value
import SqlTemplate.Proofs.Value.Plain

/-! Documents whose numbers are finite, at every depth. As arguments they are plain: a document
has neither skip markers nor host objects, and a number that is no integer of 64 bits becomes the
finite double it converts to. -/

namespace SqlTemplate.Json

open Value (Plain)

/-- Induction over a document: an array or an object has what all its items or members have. -/
@[elab_as_elim]
theorem nestedInduction {motive : Json → Prop} (null : motive .null) (bool : ∀ b, motive (.bool b))
    (number : ∀ n, motive (.number n)) (string : ∀ s, motive (.string s))
    (array : ∀ items, (∀ j ∈ items, motive j) → motive (.array items))
    (object : ∀ members, (∀ m ∈ members, motive m.2) → motive (.object members)) : ∀ j, motive j
  | .null => null
  | .bool b => bool b
  | .number n => number n
  | .string s => string s
  | .array items =>
    array items fun j _hj => nestedInduction null bool number string array object j
  | .object members =>
    object members fun m _hm => nestedInduction null bool number string array object m.2
termination_by j => j
decreasing_by
  · have := List.sizeOf_lt_of_mem _hj
    simp
    omega
  · have := List.sizeOf_lt_of_mem _hm
    obtain ⟨k, j⟩ := m
    simp at this ⊢
    omega

/-! ### Numbers of a document -/

/-- The number stands in the document, at some depth. -/
inductive HasNumber (n : Number) : Json → Prop
  | number : HasNumber n (.number n)
  | item {j : Json} {items : List Json} : j ∈ items → HasNumber n j → HasNumber n (.array items)
  | member {m : Text × Json} {members : List (Text × Json)} :
    m ∈ members → HasNumber n m.2 → HasNumber n (.object members)

/-- The number converts to a double that is finite. -/
def Number.Bounded (n : Number) : Prop := ∃ x, n.asDouble? = some x ∧ x.isFinite

def Bounded (j : Json) : Prop := ∀ n, HasNumber n j → n.Bounded

variable {n : Number} {items : List Json} {members : List (Text × Json)}

theorem bounded_number : (Json.number n).Bounded ↔ n.Bounded := by
  constructor
  · exact fun h => h n .number
  · rintro h _ ⟨⟩
    exact h

theorem bounded_array : (array items).Bounded ↔ ∀ j ∈ items, j.Bounded := by
  constructor
  · exact fun h j hj n hn => h n (.item hj hn)
  · rintro h n (_ | ⟨hj, hn⟩)
    exact h _ hj n hn

theorem bounded_object : (object members).Bounded ↔ ∀ m ∈ members, m.2.Bounded := by
  constructor
  · exact fun h m hm n hn => h n (.member hm hn)
  · rintro h n (_ | _ | ⟨hm, hn⟩)
    exact h _ hm n hn

/-! ### Documents as arguments -/

theorem mem_itemArguments {v : Value} :
    v ∈ itemArguments items ↔ ∃ j ∈ items, v = j.toArgument := by
  induction items with
  | nil => simp [itemArguments]
  | cons j js ih => simp [itemArguments, ih]

theorem mem_memberArguments {entry : Text × Value} :
    entry ∈ memberArguments members ↔ ∃ m ∈ members, entry = (m.1, m.2.toArgument) := by
  induction members with
  | nil => simp [memberArguments]
  | cons m ms ih => simp [memberArguments, ih]

/-- What is no integer becomes its double, which is there and finite. -/
theorem plain_number (h : n.Bounded) : n.toArgument.Plain := by
  obtain ⟨x, hx, hfinite⟩ := h
  unfold Number.toArgument
  split
  next => exact (Value.plain_leaf rfl).2 trivial
  next =>
    rw [hx, Option.getD_some]
    exact (Value.plain_leaf rfl).2 hfinite

theorem Bounded.plain {j : Json} (h : j.Bounded) : j.toArgument.Plain := by
  induction j using nestedInduction with
  | null | bool _ | string _ =>
    rw [toArgument]
    exact (Value.plain_leaf rfl).2 trivial
  | number n =>
    rw [toArgument]
    exact plain_number (bounded_number.1 h)
  | array items ih =>
    rw [toArgument, Value.plain_list]
    intro v hv
    obtain ⟨j, hj, rfl⟩ := mem_itemArguments.1 hv
    exact ih j hj (bounded_array.1 h j hj)
  | object members ih =>
    rw [toArgument, Value.plain_map]
    intro entry hentry
    obtain ⟨m, hm, rfl⟩ := mem_memberArguments.1 hentry
    exact ih m hm (bounded_object.1 h m hm)

end SqlTemplate.Json
