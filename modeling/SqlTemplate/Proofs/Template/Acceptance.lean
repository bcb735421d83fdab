import SqlTemplate.Proofs.Template.Fragment
import SqlTemplate.Proofs.Template.Shape
import SqlTemplate.Proofs.Value.Leaves
import SqlTemplate.Proofs.Value.Plain

/-! Which values a placeholder takes, and what it says of the others. A literal is refused for the
first of its leaves that has none, a list of names for the first item that is no text;
the number placeholders look for skip markers alone and for the value's own double. The
table of refusals is said here without the functions that check. -/

namespace SqlTemplate

theorem Value.isNull_eq_false {v : Value} (h : v ≠ .null) : v.isNull = false := by
  cases v with
  | null => exact absurd rfl h
  | _ => rfl

/-- A value that has no literal, with what is said of it. -/
inductive Value.Offends : Value → Refusal → Prop
  | skip : Offends .skip .skipInComposite
  | host (o : HostObject) : Offends (.host o) (.unsupportedType o.typeName)
  | float {x : Binary64} (h : x.isFinite = false) : Offends (.float x) (.nonFiniteFloat x)

/-- An item that is no name, with what is said of it. -/
inductive Value.Nameless : Value → Refusal → Prop
  | skip : Nameless .skip .skipInComposite
  | other {v : Value} (hskip : v ≠ .skip) (hstr : ∀ s, v ≠ .str s) :
    Nameless v (.fieldName v.typeName)

namespace Placeholder

/-- The values that a placeholder takes. -/
def Accepts : Placeholder → Value → Prop
  | .generic, v => v.isComposite = false ∧ v.Ordinary
  | .int, v => .skip ∉ v.leaves
  | .float, v => .skip ∉ v.leaves ∧ ∀ x, v = .float x → x.isFinite
  | .array, v => v.isComposite ∧ ∀ u ∈ v.leaves, u.Ordinary
  | .field, v => (∃ s, v = .str s) ∨ ∃ items, v = .list items ∧ ∀ u ∈ items, ∃ s, u = .str s

/-- The values that a placeholder does not take, with its reasons. -/
inductive Refuses : Placeholder → Value → Refusal → Prop
  | null {kind : Placeholder} (hkind : kind = .array ∨ kind = .field) : Refuses kind .null .null
  | composite {v : Value} (hv : v.isComposite) : Refuses .generic v .unexpectedArray
  | scalar {v : Value} {r : Refusal} (hv : v.isComposite = false) (hr : v.Offends r) :
    Refuses .generic v r
  | nestedSkip {kind : Placeholder} {v : Value} (hkind : kind = .int ∨ kind = .float)
    (hv : .skip ∈ v.leaves) :
    Refuses kind v .skipInComposite
  | double {x : Binary64} (hx : x.isFinite = false) : Refuses .float (.float x) (.nonFiniteFloat x)
  | notArray {v : Value} (hnull : v ≠ .null) (hv : v.isComposite = false) :
    Refuses .array v (.notArray v.typeName)
  | leaf {v u : Value} {before after : List Value} {r : Refusal} (hv : v.isComposite)
    (hleaves : v.leaves = before ++ u :: after) (hbefore : ∀ x ∈ before, x.Ordinary)
    (hr : u.Offends r) :
    Refuses .array v r
  | item {u : Value} {before after : List Value} {r : Refusal}
    (hbefore : ∀ x ∈ before, ∃ s, x = .str s)
    (hr : u.Nameless r) : Refuses .field (.list (before ++ u :: after)) r
  | notName {v : Value} (hnull : v ≠ .null) (hstr : ∀ s, v ≠ .str s)
    (hlist : ∀ items, v ≠ .list items) :
    Refuses .field v (.fieldName v.typeName)

end Placeholder

namespace Template

variable {e : Escaper} {v : Value} {r : Refusal}

/-! ### Literals -/

theorem failure?_literal_eq_some_iff (hv : v.isComposite = false) :
    failure? (literal e v) = some r ↔ v.Offends r := by
  constructor
  · intro h
    cases v with
    | float x =>
      rw [literal, doubleLiteral] at h
      split at h
      next => cases h
      next hx =>
        cases h
        exact .float (by simpa using hx)
    | skip =>
      cases h
      exact .skip
    | host o =>
      cases h
      exact .host o
    | list _ | map _ => cases hv
    | _ => cases h
  · intro h
    cases h with
    | float hx => simp [literal, doubleLiteral, hx]
    | _ => rfl

theorem failure?_literal_eq_none_iff (hv : v.isComposite = false) :
    failure? (literal e v) = none ↔ v.Ordinary := by
  cases v with
  | float x => by_cases hx : x.isFinite <;> simp [literal, doubleLiteral, Value.Ordinary, hx]
  | list _ | map _ => cases hv
  | _ => simp [literal, Value.Ordinary]

/-- A literal fails with what is said of the first leaf that has none. -/
theorem failure?_literal_leaves (e : Escaper) (v : Value) :
    failure? (literal e v) = v.leaves.findSome? fun u => failure? (literal e u) := by
  refine Value.eq_findSome?_leaves (f := fun v => failure? (literal e v)) (fun items => ?_)
    (fun entries => ?_) v
  · rw [literal, failure?_map, failure?_itemLiterals, List.findSome?_map]
    rfl
  · rw [literal, failure?_map, failure?_entryLiterals, List.findSome?_map]
    rfl

theorem literal_refused_iff :
    failure? (literal e v) = some r ↔
      ∃ before u after, v.leaves = before ++ u :: after ∧ u.Offends r ∧
      ∀ x ∈ before, x.Ordinary := by
  rw [failure?_literal_leaves, List.findSome?_eq_some_iff]
  refine exists_congr fun before => exists_congr fun u => exists_congr fun after =>
    and_congr_right fun hl => ?_
  have hleaf : ∀ x ∈ before ++ u :: after, x.isComposite = false := fun x hx =>
    Value.isComposite_of_mem_leaves (hl ▸ hx)
  have hu : u.isComposite = false := hleaf u (by simp)
  refine and_congr (failure?_literal_eq_some_iff hu) (forall₂_congr fun x hx => ?_)
  exact failure?_literal_eq_none_iff (hleaf x (by simp [hx]))

theorem literal_written_iff : failure? (literal e v) = none ↔ ∀ u ∈ v.leaves, u.Ordinary := by
  rw [failure?_literal_leaves, List.findSome?_eq_none_iff]
  exact forall₂_congr fun u hu => failure?_literal_eq_none_iff (Value.isComposite_of_mem_leaves hu)

/-! ### Numbers -/

theorem failure?_doubleLiteral_toDouble :
    failure? (doubleLiteral v.toDouble) = some r ↔
      ∃ x, v = .float x ∧ x.isFinite = false ∧ r = .nonFiniteFloat x := by
  constructor
  · intro h
    cases v with
    | float x =>
      rw [Value.toDouble, doubleLiteral] at h
      split at h
      next => cases h
      next hx =>
        cases h
        exact ⟨x, rfl, by simpa using hx, rfl⟩
    | _ =>
      -- What another value counts as is finite.
      rw [failure?_doubleLiteral (Value.isFinite_toDouble (by rintro x ⟨⟩))] at h
      cases h
  · rintro ⟨x, rfl, hx, rfl⟩
    simp [Value.toDouble, doubleLiteral, hx]

theorem failure?_number_eq_none_iff :
    failure? (doubleLiteral v.toDouble) = none ↔ ∀ x, v = .float x → x.isFinite := by
  constructor
  · rintro h x rfl
    by_contra hx
    have hsome := failure?_doubleLiteral_toDouble.2 ⟨x, rfl, by simpa using hx, rfl⟩
    rw [h] at hsome
    cases hsome
  · exact fun h => failure?_doubleLiteral (Value.isFinite_toDouble h)

/-! ### Names -/

theorem failure?_nameOf_eq_some_iff : failure? (nameOf v) = some r ↔ v.Nameless r := by
  constructor
  · intro h
    cases v with
    | str s => cases h
    | skip =>
      cases h
      exact .skip
    | _ =>
      cases h
      exact .other (by rintro ⟨⟩) (by rintro s ⟨⟩)
  · intro h
    cases h with
    | skip => rfl
    | other hskip hstr =>
      cases v with
      | str s => exact absurd rfl (hstr s)
      | skip => exact absurd rfl hskip
      | _ => rfl

theorem failure?_nameOf_eq_none_iff : failure? (nameOf v) = none ↔ ∃ s, v = .str s := by
  cases v <;> simp [nameOf]

theorem names_refused_iff {items : List Value} :
    failure? (items.mapM nameOf) = some r ↔
      ∃ before u after, items = before ++ u :: after ∧ u.Nameless r ∧
      ∀ x ∈ before, ∃ s, x = .str s := by
  rw [failure?_mapM_nameOf, List.findSome?_map, List.findSome?_eq_some_iff]
  simp only [Function.comp_apply, id_eq, failure?_nameOf_eq_some_iff, failure?_nameOf_eq_none_iff]

theorem names_written_iff {items : List Value} :
    failure? (items.mapM nameOf) = none ↔ ∀ u ∈ items, ∃ s, u = .str s := by
  rw [failure?_mapM_nameOf, List.findSome?_map, List.findSome?_eq_none_iff]
  simp only [Function.comp_apply, id_eq, failure?_nameOf_eq_none_iff]

/-! ### Placeholders -/

theorem generic_refuses_iff :
    failure? (fragment e .generic v) = some r ↔ Placeholder.generic.Refuses v r := by
  rw [fragment_generic_eq]
  constructor
  · intro h
    split at h
    next hv =>
      cases h
      exact .composite hv
    next hv =>
      rw [Bool.not_eq_true] at hv
      exact .scalar hv ((failure?_literal_eq_some_iff hv).1 h)
  · intro h
    cases h with
    | null hkind => simp at hkind
    | composite hv => simp [hv]
    | scalar hv hr => simpa [hv] using (failure?_literal_eq_some_iff hv).2 hr
    | nestedSkip hkind => simp at hkind

theorem generic_accepts_iff :
    failure? (fragment e .generic v) = none ↔ Placeholder.generic.Accepts v := by
  rw [fragment_generic_eq, Placeholder.Accepts]
  cases hv : v.isComposite with
  | true => simp
  | false => simpa using failure?_literal_eq_none_iff hv

theorem int_refuses_iff : failure? (fragment e .int v) = some r ↔ Placeholder.int.Refuses v r := by
  rw [failure?_fragment_int]
  constructor
  · intro h
    split at h
    next hv =>
      cases h
      exact .nestedSkip (.inl rfl) ((Value.containsSkip_iff v).1 hv)
    next => cases h
  · intro h
    cases h with
    | null hkind => simp at hkind
    | nestedSkip _ hv => rw [if_pos ((Value.containsSkip_iff v).2 hv)]

theorem int_accepts_iff : failure? (fragment e .int v) = none ↔ Placeholder.int.Accepts v := by
  rw [failure?_fragment_int, Placeholder.Accepts, ← Value.containsSkip_iff]
  split <;> simp_all

theorem float_refuses_iff :
    failure? (fragment e .float v) = some r ↔ Placeholder.float.Refuses v r := by
  rw [failure?_fragment_float]
  constructor
  · intro h
    split at h
    next hv =>
      cases h
      exact .nestedSkip (.inr rfl) ((Value.containsSkip_iff v).1 hv)
    next =>
      obtain ⟨x, rfl, hx, rfl⟩ := failure?_doubleLiteral_toDouble.1 h
      exact .double hx
  · intro h
    cases h with
    | null hkind => simp at hkind
    | nestedSkip _ hv => rw [if_pos ((Value.containsSkip_iff v).2 hv)]
    | double hx => exact failure?_doubleLiteral_toDouble.2 ⟨_, rfl, hx, rfl⟩

theorem float_accepts_iff :
    failure? (fragment e .float v) = none ↔ Placeholder.float.Accepts v := by
  rw [failure?_fragment_float, Placeholder.Accepts, ← Value.containsSkip_iff,
    ← failure?_number_eq_none_iff]
  split <;> simp_all

theorem array_refuses_iff :
    failure? (fragment e .array v) = some r ↔ Placeholder.array.Refuses v r := by
  rw [fragment_array_eq]
  constructor
  · intro h
    split at h
    next hv =>
      obtain ⟨before, u, after, hleaves, hr, hbefore⟩ := literal_refused_iff.1 h
      exact .leaf hv hleaves hbefore hr
    next hv =>
      rw [Bool.not_eq_true] at hv
      cases v with
      | null =>
        cases h
        exact .null (.inl rfl)
      | _ =>
        cases h
        exact .notArray (by rintro ⟨⟩) hv
  · intro h
    cases h with
    | null => rfl
    | nestedSkip hkind => simp at hkind
    | notArray hnull hv => simp [hv, Value.isNull_eq_false hnull]
    | leaf hv hleaves hbefore hr =>
      rw [if_pos hv]
      exact literal_refused_iff.2 ⟨_, _, _, hleaves, hr, hbefore⟩

theorem array_accepts_iff :
    failure? (fragment e .array v) = none ↔ Placeholder.array.Accepts v := by
  rw [fragment_array_eq, Placeholder.Accepts, ← literal_written_iff (e := e)]
  split <;> simp_all

theorem field_refuses_iff :
    failure? (fragment e .field v) = some r ↔ Placeholder.field.Refuses v r := by
  rw [fragment_field_eq]
  constructor
  · intro h
    cases v with
    | null =>
      cases h
      exact .null (.inr rfl)
    | str s => cases h
    | list items =>
      simp only [Value.isNull, fieldNames, Bool.false_eq_true, if_false, failure?_map] at h
      obtain ⟨before, u, after, rfl, hr, hbefore⟩ := names_refused_iff.1 h
      exact .item hbefore hr
    | _ =>
      cases h
      exact .notName (by rintro ⟨⟩) (by rintro s ⟨⟩) (by rintro items ⟨⟩)
  · intro h
    cases h with
    | null => rfl
    | nestedSkip hkind => simp at hkind
    | item hbefore hr =>
      simp only [Value.isNull, fieldNames, Bool.false_eq_true, if_false, failure?_map]
      exact names_refused_iff.2 ⟨_, _, _, rfl, hr, hbefore⟩
    | notName hnull hstr hlist =>
      cases v with
      | null => exact absurd rfl hnull
      | str s => exact absurd rfl (hstr s)
      | list items => exact absurd rfl (hlist items)
      | _ => rfl

theorem field_accepts_iff :
    failure? (fragment e .field v) = none ↔ Placeholder.field.Accepts v := by
  rw [fragment_field_eq, Placeholder.Accepts]
  cases v with
  | list items => simpa [Value.isNull, fieldNames] using names_written_iff
  | _ => simp [Value.isNull, fieldNames]

theorem fragment_refused_iff {kind : Placeholder} :
    fragment e kind v = .error r ↔ kind.Refuses v r := by
  rw [← failure?_eq_some_iff]
  cases kind with
  | generic => exact generic_refuses_iff
  | int => exact int_refuses_iff
  | float => exact float_refuses_iff
  | array => exact array_refuses_iff
  | field => exact field_refuses_iff

theorem fragment_accepted_iff {kind : Placeholder} :
    (∃ w, fragment e kind v = .ok w) ↔ kind.Accepts v := by
  rw [← failure?_eq_none_iff]
  cases kind with
  | generic => exact generic_accepts_iff
  | int => exact int_accepts_iff
  | float => exact float_accepts_iff
  | array => exact array_accepts_iff
  | field => exact field_accepts_iff

/-- A placeholder takes the values of the table and no others, and refuses each of the others for
the reason of the table, whatever the escaper is. Wherever the placeholder stands and whatever
stands around it, a value that is taken is written there, and one that is refused ends the build
with an error that names this place. -/
theorem fragment_follows_table (e : Escaper) (kind : Placeholder) (v : Value) :
    ((∃ w, fragment e kind v = .ok w) ↔ kind.Accepts v) ∧
    (∀ r, fragment e kind v = .error r ↔ kind.Refuses v r) ∧
    ∀ (p : Nat) (ts : List (Nat × Token)) (args : List Value) (index : Nat) (block : Option Block),
      (kind.Accepts v → ∃ w, fragment e kind v = .ok w ∧
        renderFrom e ((p, .placeholder kind) :: ts) (v :: args) index block =
          emit w (renderFrom e ts args (index + 1)) block) ∧
      ∀ r, kind.Refuses v r → v ≠ .skip →
        renderFrom e ((p, .placeholder kind) :: ts) (v :: args) index block =
          .error (.refused kind p r) := by
  refine ⟨fragment_accepted_iff, fun r => fragment_refused_iff,
    fun p ts args index block => ⟨fun h => ?_, ?_⟩⟩
  · obtain ⟨w, hw⟩ := fragment_accepted_iff.2 h
    have hs := isSkip_eq_false_of_fragment hw
    refine ⟨w, hw, ?_⟩
    cases block <;> simp [renderFrom, emit, hs, hw]
  · intro r h hskip
    have hr : fragment e kind v = .error r := fragment_refused_iff.2 h
    have hs : v.isSkip = false := Bool.eq_false_iff.2 fun hs => hskip (Value.eq_skip_of_isSkip hs)
    cases block <;> simp [renderFrom, hs, hr]

-- The host object comes before the skip marker, deeper inside.
example : fragment .ansi .array
      (.list [.int 1, .map [("k".toList, .list [.null, .host ⟨0, "node".toList, none⟩, .skip])]]) =
    .error (.unsupportedType "node".toList) := rfl

end Template

end SqlTemplate
