import Mathlib.Data.List.Forall2
import SqlTemplate.Proofs.Value.Nested

/-! The shape of a value: its variant and, for composites, the shapes of what they hold. Contents
do not belong to it, neither the characters of texts and keys nor the digits of numbers.
Only which doubles are no finite numbers and the type names of host objects do. -/

namespace SqlTemplate.Value

/-- Values of the same variants at every depth, with lists and maps of the same lengths, host
objects of the same type name and doubles that are both finite or identical. -/
inductive SameShape : Value → Value → Prop
  | null : SameShape .null .null
  | bool (b b' : Bool) : SameShape (.bool b) (.bool b')
  | int (n n' : Int64) : SameShape (.int n) (.int n')
  | finite {x x' : Binary64} (hx : x.isFinite) (hx' : x'.isFinite) :
    SameShape (.float x) (.float x')
  | float (x : Binary64) : SameShape (.float x) (.float x)
  | str (s s' : Text) : SameShape (.str s) (.str s')
  | list {items items' : List Value} (h : List.Forall₂ SameShape items items') :
    SameShape (.list items) (.list items')
  | map {entries entries' : List (Text × Value)}
    (h : List.Forall₂ SameShape (entries.map Prod.snd) (entries'.map Prod.snd)) :
    SameShape (.map entries) (.map entries')
  | skip : SameShape .skip .skip
  | host {o o' : HostObject} (h : o.typeName = o'.typeName) : SameShape (.host o) (.host o')

variable {v v' : Value}

/-- What holds of leaves of one shape, and of composites if it holds of what they hold, holds of all
values of one shape. -/
theorem SameShape.nestedInduction {motive : Value → Value → Prop}
    (leaf : ∀ v v', v.isComposite = false → SameShape v v' → motive v v')
    (list : ∀ items items', List.Forall₂ motive items items' → motive (.list items) (.list items'))
    (map : ∀ entries entries' : List (Text × Value),
      List.Forall₂ motive (entries.map Prod.snd) (entries'.map Prod.snd) →
      motive (.map entries) (.map entries'))
    (h : SameShape v v') : motive v v' := by
  have hall {items items' : List Value} (hs : List.Forall₂ SameShape items items')
      (ih : ∀ v ∈ items, ∀ v', SameShape v v' → motive v v') :
      List.Forall₂ motive items items' := by
    induction hs with
    | nil => exact .nil
    | cons hv _ ihs => exact .cons (ih _ (by simp) _ hv) (ihs fun v hv => ih v (by simp [hv]))
  induction v using Value.nestedInduction generalizing v' with
  | leaf v hv => exact leaf v v' hv h
  | list items ih =>
    cases h with
    | list hs => exact list _ _ (hall hs fun v hv v' hvv' => ih v hv hvv')
  | map entries ih =>
    cases h with
    | map hs =>
      refine map _ _ (hall hs fun v hv v' hvv' => ?_)
      obtain ⟨entry, hentry, rfl⟩ := List.mem_map.1 hv
      exact ih entry hentry hvv'

/-! ### What the shape decides -/

theorem SameShape.isNull_eq (h : SameShape v v') : v.isNull = v'.isNull := by
  cases h <;> rfl

theorem SameShape.isSkip_eq (h : SameShape v v') : v.isSkip = v'.isSkip := by
  cases h <;> rfl

theorem SameShape.isComposite_eq (h : SameShape v v') : v.isComposite = v'.isComposite := by
  cases h <;> rfl

theorem SameShape.typeName_eq (h : SameShape v v') : v.typeName = v'.typeName := by
  cases h <;> rfl

theorem anyContainsSkip_eq_any (items : List Value) :
    anyContainsSkip items = (items.map containsSkip).any id := by
  induction items with
  | nil => rfl
  | cons v vs ih => simp [anyContainsSkip, ih]

theorem entriesContainSkip_eq_any (entries : List (Text × Value)) :
    entriesContainSkip entries = ((entries.map Prod.snd).map containsSkip).any id := by
  induction entries with
  | nil => rfl
  | cons entry es ih => simp [entriesContainSkip, ih]

theorem map_eq_map_of_forall₂ {α β γ : Type} {f : α → γ} {g : β → γ} {l : List α} {l' : List β}
    (h : List.Forall₂ (fun a b => f a = g b) l l') : l.map f = l'.map g := by
  rwa [← List.forall₂_eq_eq_eq, List.forall₂_map_left_iff, List.forall₂_map_right_iff]

theorem SameShape.containsSkip_eq (h : SameShape v v') : v.containsSkip = v'.containsSkip := by
  refine h.nestedInduction (motive := fun v v' => v.containsSkip = v'.containsSkip) ?_ ?_ ?_
  · intro v v' hv h
    cases h <;> first | rfl | cases hv
  · intro items items' h
    rw [containsSkip, containsSkip, anyContainsSkip_eq_any, anyContainsSkip_eq_any,
      map_eq_map_of_forall₂ h]
  · intro entries entries' h
    rw [containsSkip, containsSkip, entriesContainSkip_eq_any, entriesContainSkip_eq_any,
      map_eq_map_of_forall₂ h]

end SqlTemplate.Value
