import Mathlib.Data.List.Forall2
import SqlTemplate.Proofs.Value.Leaves
import SqlTemplate.Value.Equality

/-! Equality of values as a relation. Composites are equal item by item and entry by entry, in
order, so what holds of their items and entries holds of them: equality goes both ways and
from value to value. A value is equal to itself unless it holds, at some depth, a double that
is not a number. -/

namespace SqlTemplate

/-! ### Doubles -/

namespace Binary64

variable {x y z : Binary64}

theorem equal_iff :
    x.equal y ↔ x.isNaN = false ∧ y.isNaN = false ∧
    (x = y ∨ x.magnitude = 0 ∧ y.magnitude = 0) := by
  cases x
  cases y
  simp [equal, and_assoc]

theorem equal_symm (h : x.equal y) : y.equal x := by
  obtain ⟨hx, hy, h⟩ := equal_iff.1 h
  exact equal_iff.2 ⟨hy, hx, h.imp Eq.symm And.symm⟩

theorem equal_trans (h : x.equal y) (h' : y.equal z) : x.equal z := by
  obtain ⟨hx, -, rfl | hxy⟩ := equal_iff.1 h
  · exact h'
  · obtain ⟨-, hz, rfl | hyz⟩ := equal_iff.1 h'
    · exact h
    · exact equal_iff.2 ⟨hx, hz, .inr ⟨hxy.1, hyz.2⟩⟩

theorem equal_self_iff : x.equal x ↔ x.isNaN = false := by
  simp [equal_iff]

end Binary64

namespace Value

variable {a b c v w : Value}

/-! ### Items and entries -/

/-- Entries are equal if their keys are the same and their values are equal. -/
def EntryEqual (e f : Text × Value) : Prop := e.1 = f.1 ∧ e.2.equal f.2

theorem allEqual_iff {vs ws : List Value} :
    allEqual vs ws ↔ List.Forall₂ (fun v w => v.equal w) vs ws := by
  induction vs generalizing ws with
  | nil => cases ws <;> simp [allEqual]
  | cons v vs ih => cases ws <;> simp [allEqual, ih]

theorem entriesEqual_iff {es fs : List (Text × Value)} :
    entriesEqual es fs ↔ List.Forall₂ EntryEqual es fs := by
  induction es generalizing fs with
  | nil => cases fs <;> simp [entriesEqual]
  | cons e es ih => cases fs <;> simp [entriesEqual, EntryEqual, ih]

theorem equal_list_iff {vs : List Value} :
    (Value.list vs).equal b ↔ ∃ ws, b = .list ws ∧ List.Forall₂ (fun v w => v.equal w) vs ws := by
  cases b <;> simp [equal, allEqual_iff]

theorem equal_map_iff {es : List (Text × Value)} :
    (Value.map es).equal b ↔ ∃ fs, b = .map fs ∧ List.Forall₂ EntryEqual es fs := by
  cases b <;> simp [equal, entriesEqual_iff]

theorem equal_float_iff {x : Binary64} :
    (Value.float x).equal b ↔ ∃ y, b = .float y ∧ x.equal y := by
  cases b <;> simp [equal]

/-- A host object is equal to whatever has its identity. -/
theorem equal_host_iff {o : HostObject} :
    (Value.host o).equal b ↔ ∃ p, b = .host p ∧ o.identity = p.identity := by
  cases b <;> simp [equal]

/-- The other leaves are equal to nothing but themselves. -/
theorem equal_leaf_iff (ha : a.isComposite = false) (hfloat : ∀ x, a ≠ .float x)
    (hhost : ∀ o, a ≠ .host o) : a.equal b ↔ a = b := by
  cases a with
  | float x => exact absurd rfl (hfloat x)
  | host o => exact absurd rfl (hhost o)
  | list | map => cases ha
  | _ => cases b <;> simp [equal]

/-! ### Both ways, from value to value, to itself -/

theorem forall₂_trans_of_mem {α : Type} {R : α → α → Prop} {l l' l'' : List α}
    (h : List.Forall₂ R l l')
    (h' : List.Forall₂ R l' l'') (ih : ∀ x ∈ l, ∀ y z, R x y → R y z → R x z) :
    List.Forall₂ R l l'' := by
  induction h generalizing l'' with
  | nil => exact h'
  | cons hxy _ ihs =>
    cases h' with
    | cons hyz h' =>
      exact .cons (ih _ (by simp) _ _ hxy hyz) (ihs h' fun x hx => ih x (by simp [hx]))

theorem forall₂_symm_of_mem {α : Type} {R : α → α → Prop} {l l' : List α} (h : List.Forall₂ R l l')
    (ih : ∀ x ∈ l, ∀ y, R x y → R y x) : List.Forall₂ R l' l := by
  have hboth := (List.forall₂_and_left l l').2 ⟨ih, h⟩
  exact (hboth.imp fun _ y hxy => hxy.1 y hxy.2).flip

theorem equal_symm (h : a.equal b) : b.equal a := by
  induction a using Value.nestedInduction generalizing b with
  | leaf a ha =>
    cases a with
    | float x =>
      obtain ⟨y, rfl, hxy⟩ := equal_float_iff.1 h
      exact equal_float_iff.2 ⟨x, rfl, Binary64.equal_symm hxy⟩
    | host o =>
      obtain ⟨p, rfl, hop⟩ := equal_host_iff.1 h
      exact equal_host_iff.2 ⟨o, rfl, hop.symm⟩
    | list | map => cases ha
    | _ =>
      obtain rfl := (equal_leaf_iff ha nofun nofun).1 h
      exact (equal_leaf_iff ha nofun nofun).2 rfl
  | list vs ih =>
    obtain ⟨ws, rfl, hall⟩ := equal_list_iff.1 h
    exact equal_list_iff.2 ⟨vs, rfl, forall₂_symm_of_mem hall fun v hv w => ih v hv⟩
  | map es ih =>
    obtain ⟨fs, rfl, hall⟩ := equal_map_iff.1 h
    exact equal_map_iff.2
      ⟨es, rfl, forall₂_symm_of_mem hall fun e he f hef => ⟨hef.1.symm, ih e he hef.2⟩⟩

theorem equal_trans (h : a.equal b) (h' : b.equal c) : a.equal c := by
  induction a using Value.nestedInduction generalizing b c with
  | leaf a ha =>
    cases a with
    | float x =>
      obtain ⟨y, rfl, hxy⟩ := equal_float_iff.1 h
      obtain ⟨z, rfl, hyz⟩ := equal_float_iff.1 h'
      exact equal_float_iff.2 ⟨z, rfl, Binary64.equal_trans hxy hyz⟩
    | host o =>
      obtain ⟨p, rfl, hop⟩ := equal_host_iff.1 h
      obtain ⟨q, rfl, hpq⟩ := equal_host_iff.1 h'
      exact equal_host_iff.2 ⟨q, rfl, hop.trans hpq⟩
    | list | map => cases ha
    | _ =>
      obtain rfl := (equal_leaf_iff ha nofun nofun).1 h
      exact h'
  | list vs ih =>
    obtain ⟨ws, rfl, hall⟩ := equal_list_iff.1 h
    obtain ⟨us, rfl, hall'⟩ := equal_list_iff.1 h'
    exact equal_list_iff.2 ⟨us, rfl, forall₂_trans_of_mem hall hall' fun v hv w u => ih v hv⟩
  | map es ih =>
    obtain ⟨fs, rfl, hall⟩ := equal_map_iff.1 h
    obtain ⟨gs, rfl, hall'⟩ := equal_map_iff.1 h'
    refine equal_map_iff.2 ⟨gs, rfl, forall₂_trans_of_mem hall hall' fun e he f g hef hfg => ?_⟩
    exact ⟨hef.1.trans hfg.1, ih e he hef.2 hfg.2⟩

theorem forall_float_mem_flatMap {α : Type} {l : List α} {f : α → List Value}
    {p : Binary64 → Prop} :
    (∀ x, .float x ∈ l.flatMap f → p x) ↔ ∀ u ∈ l, ∀ x, .float x ∈ f u → p x := by
  constructor
  · intro h u hu x hx
    exact h x (List.mem_flatMap.2 ⟨u, hu, hx⟩)
  · intro h x hx
    obtain ⟨u, hu, hx⟩ := List.mem_flatMap.1 hx
    exact h u hu x hx

theorem equal_self_iff : a.equal a ↔ ∀ x, .float x ∈ a.leaves → x.isNaN = false := by
  induction a using Value.nestedInduction with
  | leaf a ha =>
    rw [leaves_of_isComposite ha]
    cases a with
    | float x => simp [equal, Binary64.equal_self_iff]
    | host o => simp [equal]
    | list | map => cases ha
    | _ => simp [equal_leaf_iff ha nofun nofun]
  | list vs ih =>
    have hself : (Value.list vs).equal (.list vs) ↔ ∀ v ∈ vs, v.equal v := by
      simp [equal, allEqual_iff, List.forall₂_same]
    rw [hself, leaves_list, forall_float_mem_flatMap]
    exact forall₂_congr ih
  | map es ih =>
    have hself : (Value.map es).equal (.map es) ↔ ∀ e ∈ es, e.2.equal e.2 := by
      simp [equal, entriesEqual_iff, List.forall₂_same, EntryEqual]
    rw [hself, leaves_map, List.flatMap_map, forall_float_mem_flatMap]
    exact forall₂_congr ih

/-- Equality goes both ways and from value to value, whatever lists and maps the values are made of.
A value fails to be equal to itself just if it holds a double that is not a number. A host object is
equal to those of its identity, which are its copies, and to no other value. -/
theorem equal_partialEquivalence (a b c : Value) :
    (a.equal b → b.equal a) ∧ (a.equal b → b.equal c → a.equal c) ∧
    (a.equal a ↔ ∀ x, .float x ∈ a.leaves → x.isNaN = false) ∧
    ∀ o, (Value.host o).equal b ↔ ∃ p, b = .host p ∧ o.identity = p.identity :=
  ⟨equal_symm, equal_trans, equal_self_iff, fun _ => equal_host_iff⟩

/-- A double in a list in a map. -/
def wrapped (x : Binary64) : Value := .map [("k".toList, .list [.skip, .float x])]

/-- The two zeros are equal at any depth, and what is not a number is not. -/
theorem equal_of_signed_zeros :
    (wrapped ⟨0⟩).equal (wrapped ⟨0x8000000000000000⟩) ∧
    (wrapped ⟨0x8000000000000000⟩).equal (wrapped ⟨0⟩) ∧
    (wrapped ⟨0⟩).equal (wrapped ⟨0⟩) ∧
    ¬ (wrapped ⟨0x7ff8000000000000⟩).equal (wrapped ⟨0x7ff8000000000000⟩) := by
  have h : (wrapped ⟨0⟩).equal (wrapped ⟨0x8000000000000000⟩) := by decide +kernel
  have hnan : .float ⟨0x7ff8000000000000⟩ ∈ (wrapped ⟨0x7ff8000000000000⟩).leaves :=
    List.mem_cons_of_mem _ List.mem_cons_self
  obtain ⟨hsymm, htrans, -, -⟩ :=
    equal_partialEquivalence (wrapped ⟨0⟩) (wrapped ⟨0x8000000000000000⟩) (wrapped ⟨0⟩)
  obtain ⟨-, -, hself, -⟩ := equal_partialEquivalence (wrapped ⟨0x7ff8000000000000⟩) .null .null
  exact ⟨h, hsymm h, htrans h (hsymm h),
    fun hequal => absurd (hself.1 hequal _ hnan) (by decide +kernel)⟩

end Value

end SqlTemplate
