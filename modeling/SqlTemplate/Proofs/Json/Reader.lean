import SqlTemplate.Formats
import SqlTemplate.Proofs.Json.Number

/-! The reader of JSON takes no number beyond the doubles, so every document it returns has finite
numbers alone. A document is read by three functions that call each other; what each of them
returns is followed with one unit of fuel after the other. -/

namespace SqlTemplate

/-- The reader of JSON refuses documents with a number that overflows a double. -/
def Formats.JsonBounded (F : Formats) : Prop := ∀ raw j, F.json raw = .ok j → j.Bounded

namespace Json

/-! ### Members -/

theorem mem_put {k : Text} {j : Json} {members : List (Text × Json)} {m : Text × Json}
    (h : m ∈ put k j members) : m.2 = j ∨ m ∈ members := by
  induction members with
  | nil => exact .inl (by rw [List.mem_singleton.1 h])
  | cons first ms ih =>
    obtain ⟨l, i⟩ := first
    simp only [put] at h
    split at h
    next =>
      rcases List.mem_cons.1 h with rfl | h
      · exact .inl rfl
      · exact .inr (by simp [h])
    next =>
      rcases List.mem_cons.1 h with rfl | h
      · exact .inr (by simp)
      · exact (ih h).imp_right fun h => by simp [h]

/-- Repeated keys bring no new values. -/
theorem exists_mem_of_distinct {members : List (Text × Json)} {m : Text × Json}
    (h : m ∈ distinct members) : ∃ m' ∈ members, m'.2 = m.2 := by
  have hfold (ms : List (Text × Json)) : ∀ m ∈ members.foldl (fun ms m => put m.1 m.2 ms) ms,
      (∃ m' ∈ members, m'.2 = m.2) ∨ m ∈ ms := by
    clear h
    induction members generalizing ms with
    | nil => exact fun m hm => .inr hm
    | cons first rest ih =>
      intro m hm
      rcases ih (put first.1 first.2 ms) m hm with ⟨m', hm', heq⟩ | hm
      · exact .inl ⟨m', by simp [hm'], heq⟩
      · rcases mem_put hm with heq | hm
        · exact .inl ⟨first, by simp, heq.symm⟩
        · exact .inr hm
  exact (hfold [] m h).resolve_right List.not_mem_nil

/-! ### Reading -/

/-- What the reader returns with this fuel is bounded, be it a value, items or members. -/
structure ReadsBounded (fuel : Nat) : Prop where
  value {levels : Nat} {t r : Text} {j : Json} :
    readValue? fuel levels t = some (j, r) → j.Bounded
  items {levels : Nat} {t r : Text} {js : List Json} :
    readItems? fuel levels t = some (js, r) → ∀ j ∈ js, j.Bounded
  members {levels : Nat} {t r : Text} {ms : List (Text × Json)} :
    readMembers? fuel levels t = some (ms, r) → ∀ m ∈ ms, m.2.Bounded

variable {fuel levels : Nat} {t r : Text}

theorem ReadsBounded.value_succ (h : ReadsBounded fuel) {j : Json}
    (hj : readValue? (fuel + 1) levels t = some (j, r)) : j.Bounded := by
  simp only [readValue?] at hj
  split at hj
  case h_1 | h_2 | h_3 =>
    cases hj
    rintro n ⟨⟩
  case h_4 =>
    obtain ⟨s, -, heq⟩ := Option.map_eq_some_iff.1 hj
    cases heq
    rintro n ⟨⟩
  case h_5 =>
    obtain ⟨-, hj⟩ := Option.ite_none_left_eq_some.1 hj
    split at hj
    next =>
      cases hj
      exact bounded_array.2 (by simp)
    next =>
      obtain ⟨⟨js, r'⟩, hjs, heq⟩ := Option.map_eq_some_iff.1 hj
      cases heq
      exact bounded_array.2 (h.items hjs)
  case h_6 =>
    obtain ⟨-, hj⟩ := Option.ite_none_left_eq_some.1 hj
    split at hj
    next =>
      cases hj
      exact bounded_object.2 (by simp)
    next =>
      obtain ⟨⟨ms, r'⟩, hms, heq⟩ := Option.map_eq_some_iff.1 hj
      cases heq
      refine bounded_object.2 fun m hm => ?_
      obtain ⟨m', hm', heq⟩ := exists_mem_of_distinct hm
      rw [← heq]
      exact h.members hms m' hm'
  case h_7 =>
    obtain ⟨⟨n, r'⟩, -, hj⟩ := Option.bind_eq_some_iff.1 hj
    obtain ⟨number, hnumber, hj⟩ := Option.bind_eq_some_iff.1 hj
    cases hj
    exact bounded_number.2 (bounded_number? hnumber)

theorem ReadsBounded.items_succ (h : ReadsBounded fuel) {js : List Json}
    (hjs : readItems? (fuel + 1) levels t = some (js, r)) : ∀ j ∈ js, j.Bounded := by
  simp only [readItems?] at hjs
  obtain ⟨⟨j, r'⟩, hj, hjs⟩ := Option.bind_eq_some_iff.1 hjs
  split at hjs
  next =>
    cases hjs
    simpa using h.value hj
  next =>
    obtain ⟨⟨js', r''⟩, hjs', heq⟩ := Option.map_eq_some_iff.1 hjs
    cases heq
    exact List.forall_mem_cons.2 ⟨h.value hj, h.items hjs'⟩
  next => cases hjs

theorem ReadsBounded.members_succ (h : ReadsBounded fuel) {ms : List (Text × Json)}
    (hms : readMembers? (fuel + 1) levels t = some (ms, r)) : ∀ m ∈ ms, m.2.Bounded := by
  simp only [readMembers?] at hms
  split at hms
  case h_2 => cases hms
  obtain ⟨⟨k, r₁⟩, -, hms⟩ := Option.bind_eq_some_iff.1 hms
  split at hms
  case h_2 => cases hms
  obtain ⟨⟨j, r₂⟩, hj, hms⟩ := Option.bind_eq_some_iff.1 hms
  split at hms
  next =>
    cases hms
    simpa using h.value hj
  next =>
    obtain ⟨⟨ms', r₃⟩, hms', heq⟩ := Option.map_eq_some_iff.1 hms
    cases heq
    exact List.forall_mem_cons.2 ⟨h.value hj, h.members hms'⟩
  next => cases hms

/-- Each of the three functions calls the others with one unit of fuel less. -/
theorem readsBounded (fuel : Nat) : ReadsBounded fuel := by
  induction fuel with
  | zero => constructor <;> simp [readValue?, readItems?, readMembers?]
  | succ fuel ih => exact ⟨ih.value_succ, ih.items_succ, ih.members_succ⟩

theorem bounded_of_read? {j : Json} (h : read? t = some j) : j.Bounded := by
  obtain ⟨⟨j', r⟩, hj, h⟩ := Option.bind_eq_some_iff.1 h
  obtain ⟨-, h⟩ := Option.ite_none_right_eq_some.1 h
  cases h
  exact (readsBounded _).value hj

end Json

namespace Formats

theorem own_jsonBounded : own.JsonBounded :=
  fun _raw _j h => Json.bounded_of_read? (readOr_eq_ok_iff.1 h)

end Formats

end SqlTemplate
