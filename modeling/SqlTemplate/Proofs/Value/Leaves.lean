import SqlTemplate.Proofs.Value.Shape

/-! The leaves of a value: the values in it that hold no others, at every depth, in the order in
which they are written. A check that goes through the items of lists and the entries of
maps is a check of the leaves. -/

namespace SqlTemplate.Value

mutual

/-- What a value holds at every depth that is neither a list nor a map, from left to right. -/
def leaves : Value → List Value
  | .list items => itemLeaves items
  | .map entries => entryLeaves entries
  | v => [v]
termination_by structural v => v

def itemLeaves : List Value → List Value
  | [] => []
  | v :: vs => leaves v ++ itemLeaves vs
termination_by structural vs => vs

def entryLeaves : List (Text × Value) → List Value
  | [] => []
  | (_, v) :: es => leaves v ++ entryLeaves es
termination_by structural es => es

end

variable {α : Type} {v u : Value}

theorem leaves_of_isComposite (h : v.isComposite = false) : v.leaves = [v] := by
  cases v <;> first | rfl | cases h

theorem leaves_list (items : List Value) : (Value.list items).leaves = items.flatMap leaves := by
  rw [leaves]
  induction items with
  | nil => rfl
  | cons v vs ih => rw [itemLeaves, ih, List.flatMap_cons]

theorem leaves_map (entries : List (Text × Value)) :
    (Value.map entries).leaves = (entries.map Prod.snd).flatMap leaves := by
  rw [leaves]
  induction entries with
  | nil => rfl
  | cons entry es ih => rw [entryLeaves, ih, List.map_cons, List.flatMap_cons]

theorem isComposite_of_mem_leaves (h : u ∈ v.leaves) : u.isComposite = false := by
  induction v using Value.nestedInduction with
  | leaf v hv =>
    rw [leaves_of_isComposite hv, List.mem_singleton] at h
    rwa [h]
  | list items ih =>
    rw [leaves_list] at h
    obtain ⟨v, hv, hu⟩ := List.mem_flatMap.1 h
    exact ih v hv hu
  | map entries ih =>
    rw [leaves_map] at h
    obtain ⟨v, hv, hu⟩ := List.mem_flatMap.1 h
    obtain ⟨entry, hentry, rfl⟩ := List.mem_map.1 hv
    exact ih entry hentry hu

/-! ### Checks of all leaves -/

theorem findSome?_flatMap {β : Type} (f : β → Option α) {g : β → List β} {l : List β}
    (h : ∀ x ∈ l, f x = (g x).findSome? f) : (l.flatMap g).findSome? f = l.findSome? f := by
  induction l with
  | nil => rfl
  | cons x xs ih =>
    have hrest := ih fun y hy => h y (by simp [hy])
    rw [List.flatMap_cons, List.findSome?_append, hrest, ← h x (by simp), List.findSome?_cons]
    cases f x <;> rfl

/-- A check that stops at the first fault of the items or entries stops at the first faulty leaf. -/
theorem eq_findSome?_leaves {f : Value → Option α}
    (list : ∀ items, f (.list items) = items.findSome? f)
    (map : ∀ entries : List (Text × Value), f (.map entries) = (entries.map Prod.snd).findSome? f)
    (v : Value) : f v = v.leaves.findSome? f := by
  induction v using Value.nestedInduction with
  | leaf v hv => rw [leaves_of_isComposite hv, List.findSome?_singleton]
  | list items ih => rw [list, leaves_list, findSome?_flatMap f ih]
  | map entries ih =>
    refine (map entries).trans ?_
    rw [leaves_map, findSome?_flatMap f]
    intro v hv
    obtain ⟨entry, hentry, rfl⟩ := List.mem_map.1 hv
    exact ih entry hentry

theorem containsSkip_iff (v : Value) : v.containsSkip ↔ .skip ∈ v.leaves := by
  induction v using Value.nestedInduction with
  | leaf v hv =>
    rw [leaves_of_isComposite hv, List.mem_singleton]
    cases v <;> simp_all [containsSkip, isComposite]
  | list items ih =>
    rw [containsSkip, anyContainsSkip_eq_any, leaves_list, List.mem_flatMap]
    simpa using exists_congr fun v => and_congr_right (ih v)
  | map entries ih =>
    have hvalues : ∀ v ∈ entries.map Prod.snd, v.containsSkip ↔ .skip ∈ v.leaves := by
      intro v hv
      obtain ⟨entry, hentry, rfl⟩ := List.mem_map.1 hv
      exact ih entry hentry
    rw [containsSkip, entriesContainSkip_eq_any, leaves_map, List.mem_flatMap, List.any_map,
      List.any_eq_true]
    exact exists_congr fun v => and_congr_right (hvalues v)

end SqlTemplate.Value
