import SqlTemplate.Session
import SqlTemplate.Proofs.Binary64.Finite
import SqlTemplate.Proofs.Template.Failure
import SqlTemplate.Proofs.Value.Shape

/-! Failures depend on shapes alone. Whether a value is refused, and why, is decided by its shape:
nothing that a text, a key or a number holds makes an error or shows in one, and
escaping has no part in it. So builds with arguments of the same shapes fail alike. -/

namespace SqlTemplate.Template

variable {v v' : Value}

/-! ### Literals -/

/-- Items fail with the first failure among them. -/
theorem failure?_itemLiterals (e : Escaper) (items : List Value) :
    failure? (itemLiterals e items) = (items.map fun v => failure? (literal e v)).findSome? id := by
  induction items with
  | nil => rfl
  | cons v vs ih => rw [itemLiterals, failure?_bind_map, ih, List.map_cons, findSome?_id_cons]

theorem failure?_entryLiterals (e : Escaper) (entries : List (Text × Value)) :
    failure? (entryLiterals e entries) =
      ((entries.map Prod.snd).map fun v => failure? (literal e v)).findSome? id := by
  induction entries with
  | nil => rfl
  | cons entry es ih =>
    rw [entryLiterals, failure?_bind_map, ih, List.map_cons, List.map_cons, findSome?_id_cons]

theorem failure?_doubleLiteral {x : Binary64} (h : x.isFinite) :
    failure? (doubleLiteral x) = none := by
  simp [doubleLiteral, h]

theorem failure?_literal_congr (e e' : Escaper) (h : v.SameShape v') :
    failure? (literal e v) = failure? (literal e' v') := by
  refine h.nestedInduction (motive := fun v v' => failure? (literal e v) =
    failure? (literal e' v')) ?_ ?_ ?_
  · intro v v' hv h
    cases h with
    | finite hx hx' => rw [literal, literal, failure?_doubleLiteral hx, failure?_doubleLiteral hx']
    | host h => simp [literal, h]
    | list _ | map _ => cases hv
    | _ => simp only [literal, failure?_ok]
  · intro items items' h
    rw [literal, literal, failure?_map, failure?_map, failure?_itemLiterals, failure?_itemLiterals,
      Value.map_eq_map_of_forall₂ h]
  · intro entries entries' h
    rw [literal, literal, failure?_map, failure?_map, failure?_entryLiterals,
      failure?_entryLiterals, Value.map_eq_map_of_forall₂ h]

/-! ### Names -/

theorem failure?_mapM_nameOf (items : List Value) :
    failure? (items.mapM nameOf) = (items.map fun v => failure? (nameOf v)).findSome? id := by
  induction items with
  | nil => rfl
  | cons v vs ih =>
    have hcons : failure? ((v :: vs).mapM nameOf) =
        (failure? (nameOf v)).or (failure? (vs.mapM nameOf)) := by
      rw [List.mapM_cons, ← failure?_bind_map (nameOf v) (vs.mapM nameOf) (· :: ·)]
      cases vs.mapM nameOf <;> rfl
    rw [hcons, ih, List.map_cons, findSome?_id_cons]

theorem failure?_fieldNames_congr (e e' : Escaper) (h : v.SameShape v') :
    failure? (fieldNames e v) = failure? (fieldNames e' v') := by
  cases h with
  | list hs =>
    have hname {v v' : Value} (h : v.SameShape v') : failure? (nameOf v) =
      failure? (nameOf v') := by cases h <;> rfl
    rw [fieldNames, fieldNames, failure?_map, failure?_map, failure?_mapM_nameOf,
      failure?_mapM_nameOf, Value.map_eq_map_of_forall₂ (hs.imp fun _ _ h => hname h)]
  | _ => rfl

/-! ### Fragments -/

theorem fragment_generic_eq (e : Escaper) (v : Value) :
    fragment e .generic v = if v.isComposite then .error .unexpectedArray else literal e v := by
  cases v <;> rfl

theorem fragment_array_eq (e : Escaper) (v : Value) :
    fragment e .array v =
      if v.isComposite then literal e v
      else .error (if v.isNull then .null else .notArray v.typeName) := by
  cases v <;> rfl

theorem fragment_field_eq (e : Escaper) (v : Value) :
    fragment e .field v = if v.isNull then .error .null else fieldNames e v := by
  cases v <;> rfl

theorem failure?_fragment_int (e : Escaper) (v : Value) :
    failure? (fragment e .int v) = if v.containsSkip then some .skipInComposite else none := by
  cases v
  case null => rfl
  all_goals
    simp only [fragment]
    split <;> rfl

theorem failure?_fragment_float (e : Escaper) (v : Value) :
    failure? (fragment e .float v) =
      if v.containsSkip then some .skipInComposite else failure? (doubleLiteral v.toDouble) := by
  cases v
  case null => exact (failure?_doubleLiteral Binary64.isFinite_zero).symm
  all_goals
    simp only [fragment]
    split <;> rfl

/-- The number that a value counts as is finite unless the value is itself a double that is not. -/
theorem failure?_toDouble_congr (h : v.SameShape v') :
    failure? (doubleLiteral v.toDouble) = failure? (doubleLiteral v'.toDouble) := by
  have hnone {v : Value} (hv : ∀ x, v = .float x → x.isFinite) :
      failure? (doubleLiteral v.toDouble) = none :=
    failure?_doubleLiteral (Value.isFinite_toDouble hv)
  cases h with
  | float x => rfl
  | finite hx hx' => exact (failure?_doubleLiteral hx).trans (failure?_doubleLiteral hx').symm
  | _ => exact (hnone (by rintro x ⟨⟩)).trans (hnone (by rintro x ⟨⟩)).symm

/-- Whether a placeholder refuses a value, and why, depends on the shape of the value alone. -/
theorem failure?_fragment_congr (e e' : Escaper) (kind : Placeholder) (h : v.SameShape v') :
    failure? (fragment e kind v) = failure? (fragment e' kind v') := by
  cases kind with
  | generic =>
    rw [fragment_generic_eq, fragment_generic_eq, h.isComposite_eq]
    split
    next => rfl
    next => exact failure?_literal_congr e e' h
  | int => rw [failure?_fragment_int, failure?_fragment_int, h.containsSkip_eq]
  | float =>
    rw [failure?_fragment_float, failure?_fragment_float, h.containsSkip_eq,
      failure?_toDouble_congr h]
  | array =>
    rw [fragment_array_eq, fragment_array_eq, h.isComposite_eq, h.isNull_eq, h.typeName_eq]
    split
    next => exact failure?_literal_congr e e' h
    next => rfl
  | field =>
    rw [fragment_field_eq, fragment_field_eq, h.isNull_eq]
    split
    next => rfl
    next => exact failure?_fieldNames_congr e e' h

/-! ### Builds -/

variable {args args' : List Value}

theorem getElem?_sameShape (h : List.Forall₂ Value.SameShape args args') (i : Nat) :
    (args[i]? = none ∧ args'[i]? = none) ∨
      ∃ v v', args[i]? = some v ∧ args'[i]? = some v' ∧ v.SameShape v' := by
  induction h generalizing i with
  | nil => exact .inl ⟨rfl, rfl⟩
  | cons hv _ ih =>
    cases i with
    | zero => exact .inr ⟨_, _, rfl, rfl, hv⟩
    | succ i => exact ih i

theorem bindingFault_congr (e e' : Escaper) (h : List.Forall₂ Value.SameShape args args')
    (u v : Text) : bindingFault e args u v = bindingFault e' args' u v := by
  unfold bindingFault
  rcases getElem?_sameShape h (u.count '?') with ⟨hn, hn'⟩ | ⟨arg, arg', harg, harg', hshape⟩
  · rw [hn, hn']
  · rw [harg, harg']
    simp only [hshape.isSkip_eq, failure?_fragment_congr e e' (Placeholder.before v) hshape]

/-- Whether a build fails, with which error and which event, is decided by the shapes of the
arguments: two builds of a template, by whichever escapers, both succeed or both fail with one error
if their arguments have the same shapes, and report failures alike under all settings. -/
theorem build_failure_of_sameShape (e e' : Escaper) (t : Text)
    (h : List.Forall₂ Value.SameShape args args') :
    (∃ s s', build e t args = .ok s ∧ build e' t args' = .ok s') ∨
      ∃ err, build e t args = .error err ∧ build e' t args' = .error err ∧
        ∀ settings settings', ((Session.mk e settings).build t args).2 =
          ((Session.mk e' settings').build t args').2 := by
  have hfailure : failure? (build e t args) = failure? (build e' t args') :=
    failure?_build_congr h.length_eq fun u v _ => bindingFault_congr e e' h u v
  cases hb : build e t args with
  | ok s =>
    rw [hb] at hfailure
    obtain ⟨s', hs'⟩ := failure?_eq_none_iff.1 hfailure.symm
    exact .inl ⟨s, s', rfl, hs'⟩
  | error err =>
    rw [hb] at hfailure
    have hb' := failure?_eq_some_iff.1 hfailure.symm
    refine .inr ⟨err, rfl, hb', fun settings settings' => ?_⟩
    simp only [Session.build, hb, hb', Session.trace, h.length_eq]

/-- A number too large for a double and a text that is no number, with other quotes and keys, under
two escapers: the double that is not a number is blamed in both. -/
theorem build_failure_of_hostile_texts :
    List.Forall₂ Value.SameShape
      [.str "1e999".toList, .skip,
        .list [.str "x' or 1".toList, .map [("k".toList, .float ⟨0x7ff8000000000000⟩)]]]
      [.str "none".toList, .skip,
        .list [.str [], .map [("\x60\"".toList, .float ⟨0x7ff8000000000000⟩)]]] ∧
    build .mysql "a = ?f\x7b, b = ?d\x7d, ?a".toList
      [.str "1e999".toList, .skip,
        .list [.str "x' or 1".toList, .map [("k".toList, .float ⟨0x7ff8000000000000⟩)]]] =
      .error (.refused .array 18 (.nonFiniteFloat ⟨0x7ff8000000000000⟩)) ∧
    build .ansi "a = ?f\x7b, b = ?d\x7d, ?a".toList
      [.str "none".toList, .skip,
        .list [.str [], .map [("\x60\"".toList, .float ⟨0x7ff8000000000000⟩)]]] =
      .error (.refused .array 18 (.nonFiniteFloat ⟨0x7ff8000000000000⟩)) := by
  have hshape : List.Forall₂ Value.SameShape
      [.str "1e999".toList, .skip,
        .list [.str "x' or 1".toList, .map [("k".toList, .float ⟨0x7ff8000000000000⟩)]]]
      [.str "none".toList, .skip,
        .list [.str [], .map [("\x60\"".toList, .float ⟨0x7ff8000000000000⟩)]]] :=
    .cons (.str _ _) (.cons .skip
      (.cons (.list (.cons (.str _ _) (.cons (.map (.cons (.float _) .nil)) .nil))) .nil))
  have hbuild : build .mysql "a = ?f\x7b, b = ?d\x7d, ?a".toList
      [.str "1e999".toList, .skip,
        .list [.str "x' or 1".toList, .map [("k".toList, .float ⟨0x7ff8000000000000⟩)]]] =
      .error (.refused .array 18 (.nonFiniteFloat ⟨0x7ff8000000000000⟩)) := by decide +kernel
  refine ⟨hshape, hbuild, ?_⟩
  rcases build_failure_of_sameShape .mysql .ansi "a = ?f\x7b, b = ?d\x7d, ?a".toList hshape with
    ⟨s, s', hs, -⟩ | ⟨err, herr, herr', -⟩
  · rw [hbuild] at hs
    cases hs
  · rw [hbuild] at herr
    rw [herr', ← Except.error.inj herr]

end SqlTemplate.Template
