import SqlTemplate.Value.Basic

/-! Values as trees: induction over the items of lists and the entries of maps, and the keys
of all maps that a value holds. -/

namespace SqlTemplate.Value

/-- Induction over a value: a composite has what all its items or entries have. -/
@[elab_as_elim]
theorem nestedInduction {motive : Value → Prop} (leaf : ∀ v, v.isComposite = false → motive v)
    (list : ∀ items, (∀ v ∈ items, motive v) → motive (.list items))
    (map : ∀ entries, (∀ entry ∈ entries, motive entry.2) → motive (.map entries)) : ∀ v, motive v
  | .list items => list items fun v _hv => nestedInduction leaf list map v
  | .map entries => map entries fun entry _hentry => nestedInduction leaf list map entry.2
  | .null | .bool _ | .int _ | .float _ | .str _ | .skip | .host _ => leaf _ rfl
termination_by v => v
decreasing_by
  · have := List.sizeOf_lt_of_mem _hv
    simp
    omega
  · have := List.sizeOf_lt_of_mem _hentry
    obtain ⟨k, v⟩ := entry
    simp at this ⊢
    omega

mutual

/-- The keys of the maps in a value, at every depth. -/
def keys : Value → List Text
  | .list items => itemKeys items
  | .map entries => entryKeys entries
  | _ => []
termination_by structural v => v

def itemKeys : List Value → List Text
  | [] => []
  | v :: vs => keys v ++ itemKeys vs
termination_by structural vs => vs

def entryKeys : List (Text × Value) → List Text
  | [] => []
  | (k, v) :: es => k :: (keys v ++ entryKeys es)
termination_by structural es => es

end

theorem mem_itemKeys {k : Text} {items : List Value} :
    k ∈ itemKeys items ↔ ∃ v ∈ items, k ∈ v.keys := by
  induction items with
  | nil => simp [itemKeys]
  | cons v vs ih => simp [itemKeys, ih]

theorem mem_entryKeys {k : Text} {entries : List (Text × Value)} :
    k ∈ entryKeys entries ↔ ∃ entry ∈ entries, k = entry.1 ∨ k ∈ entry.2.keys := by
  induction entries with
  | nil => simp [entryKeys]
  | cons entry es ih =>
    obtain ⟨k', v⟩ := entry
    simp [entryKeys, ih, or_assoc]

end SqlTemplate.Value
