import SqlTemplate.Proofs.Value.Shape

/-! Plain values: those in which there is, at no depth, a skip marker, a host object or a double
that is infinite or not a number. What is left has a literal, whatever holds it. -/

namespace SqlTemplate.Value

/-- The first value is the second or stands in it, at some depth. -/
inductive Part : Value → Value → Prop
  | refl (v : Value) : Part v v
  | item {u v : Value} {items : List Value} : v ∈ items → Part u v → Part u (.list items)
  | entry {u : Value} {entry : Text × Value} {entries : List (Text × Value)} :
    entry ∈ entries → Part u entry.2 → Part u (.map entries)

/-- Neither a skip marker nor a host object nor a double that is infinite or not a number. -/
def Ordinary : Value → Prop
  | .skip | .host _ => False
  | .float x => x.isFinite
  | .null | .bool _ | .int _ | .str _ | .list _ | .map _ => True

def Plain (v : Value) : Prop := ∀ u, Part u v → u.Ordinary

variable {v : Value} {items : List Value} {entries : List (Text × Value)}

theorem Plain.ordinary (h : v.Plain) : v.Ordinary := h v (.refl v)

theorem plain_leaf (hv : v.isComposite = false) : v.Plain ↔ v.Ordinary := by
  constructor
  · exact Plain.ordinary
  · intro h u hu
    cases hu with
    | refl => exact h
    | item | entry => cases hv

theorem plain_list : (Value.list items).Plain ↔ ∀ v ∈ items, v.Plain := by
  constructor
  · intro h v hv u hu
    exact h u (.item hv hu)
  · intro h u hu
    cases hu with
    | refl => trivial
    | item hv hu => exact h _ hv u hu

theorem plain_map : (Value.map entries).Plain ↔ ∀ entry ∈ entries, entry.2.Plain := by
  constructor
  · intro h entry he u hu
    exact h u (.entry he hu)
  · intro h u hu
    cases hu with
    | refl => trivial
    | entry he hu => exact h _ he u hu

theorem Plain.containsSkip_eq (h : v.Plain) : v.containsSkip = false := by
  induction v using Value.nestedInduction with
  | leaf v hv =>
    cases v with
    | skip => exact h.ordinary.elim
    | list _ | map _ => cases hv
    | _ => rfl
  | list items ih =>
    rw [containsSkip, anyContainsSkip_eq_any]
    simpa using fun v hv => ih v hv (plain_list.1 h v hv)
  | map entries ih =>
    rw [containsSkip, entriesContainSkip_eq_any]
    simpa using fun k v hentry => ih (k, v) hentry (plain_map.1 h (k, v) hentry)

end SqlTemplate.Value
