import SqlTemplate.Proofs.Template.Shape
import SqlTemplate.Proofs.Value.Plain

/-! Builds with plain arguments. A plain value has a literal at every depth and counts as a finite
number, so a placeholder refuses it only for its type: the errors that skip markers in
composites, host objects and doubles without a literal make do not occur. -/

namespace SqlTemplate

/-- The errors that only a calling program can bring about, with values that have no literal. -/
def ErrorKind.isHostOnly : ErrorKind → Bool
  | .skipInComposite | .unsupportedType | .nonFiniteFloat => true
  | _ => false

namespace Template

variable {e : Escaper} {v : Value} {args : List Value}

theorem failure?_literal_of_plain (h : v.Plain) : failure? (literal e v) = none := by
  induction v using Value.nestedInduction with
  | leaf v hv =>
    cases v with
    | float x => exact failure?_doubleLiteral h.ordinary
    | skip | host => exact h.ordinary.elim
    | list _ | map _ => cases hv
    | _ => rfl
  | list items ih =>
    rw [literal, failure?_map, failure?_itemLiterals, List.findSome?_eq_none_iff]
    intro o ho
    obtain ⟨v, hv, rfl⟩ := List.mem_map.1 ho
    exact ih v hv (Value.plain_list.1 h v hv)
  | map entries ih =>
    rw [literal, failure?_map, failure?_entryLiterals, List.map_map, List.findSome?_eq_none_iff]
    intro o ho
    obtain ⟨entry, hentry, rfl⟩ := List.mem_map.1 ho
    exact ih entry hentry (Value.plain_map.1 h entry hentry)

theorem kind_of_fieldNames (h : v.Plain) {reason : Refusal}
    (hr : failure? (fieldNames e v) = some reason) : reason.kind = .fieldName := by
  cases v with
  | str s => cases hr
  | list items =>
    rw [fieldNames, failure?_map, failure?_mapM_nameOf] at hr
    obtain ⟨o, ho, rfl⟩ := List.exists_of_findSome?_eq_some hr
    obtain ⟨v, hv, hname⟩ := List.mem_map.1 ho
    have hplain := Value.plain_list.1 h v hv
    cases v with
    | skip => exact hplain.ordinary.elim
    | str s => cases hname
    | _ =>
      cases hname
      rfl
  | _ =>
    cases hr
    rfl

/-- A placeholder refuses a plain value only for its type. -/
theorem not_isHostOnly_of_fragment (h : v.Plain) {kind : Placeholder} {reason : Refusal}
    (hf : fragment e kind v = .error reason) : reason.kind.isHostOnly = false := by
  rw [← failure?_eq_some_iff] at hf
  cases kind with
  | generic =>
    rw [fragment_generic_eq] at hf
    split at hf
    next =>
      cases hf
      rfl
    next =>
      rw [failure?_literal_of_plain h] at hf
      cases hf
  | int =>
    rw [failure?_fragment_int, h.containsSkip_eq] at hf
    cases hf
  | float =>
    have hfinite : v.toDouble.isFinite := by
      refine Value.isFinite_toDouble ?_
      rintro x rfl
      exact h.ordinary
    rw [failure?_fragment_float, h.containsSkip_eq, failure?_doubleLiteral hfinite] at hf
    cases hf
  | array =>
    rw [fragment_array_eq] at hf
    split at hf
    next =>
      rw [failure?_literal_of_plain h] at hf
      cases hf
    next =>
      cases hf
      split <;> rfl
  | field =>
    rw [fragment_field_eq] at hf
    split at hf
    next =>
      cases hf
      rfl
    next =>
      rw [kind_of_fieldNames h hf]
      rfl

theorem not_isHostOnly_of_bindingFault (h : ∀ v ∈ args, v = .skip ∨ v.Plain) {u w : Text}
    {err : TemplateError}
    (hf : bindingFault e args u w = some err) : err.kind.isHostOnly = false := by
  rcases bindingFault_cases hf with ⟨-, rfl⟩ | ⟨-, -, rfl⟩ | ⟨arg, reason, harg, hs, hreason, rfl⟩
  · rfl
  · rfl
  · rcases h arg (List.mem_of_getElem? harg) with rfl | hplain
    · cases hs
    · exact not_isHostOnly_of_fragment hplain hreason

theorem not_isHostOnly_of_braceFault {u w : Text} {c : Char} {err : TemplateError}
    (hf : braceFault u c w = some err) : err.kind.isHostOnly = false := by
  unfold braceFault at hf
  split at hf
  next =>
    obtain ⟨p, -, rfl⟩ := Option.map_eq_some_iff.1 hf
    rfl
  next =>
    split at hf
    next => cases hf
    next =>
      cases hf
      rfl
  next => cases hf

theorem not_isHostOnly_of_fault (h : ∀ v ∈ args, v = .skip ∨ v.Plain) {u w : Text} {c : Char}
    {err : TemplateError} (hf : fault e args u c w = some err) : err.kind.isHostOnly = false := by
  by_cases hq : c = '?'
  · rw [fault, if_pos hq] at hf
    exact not_isHostOnly_of_bindingFault h hf
  · rw [fault, if_neg hq] at hf
    exact not_isHostOnly_of_braceFault hf

/-- Building with plain arguments and skip markers never fails with an error of
a calling program. -/
theorem not_isHostOnly_of_build (h : ∀ v ∈ args, v = .skip ∨ v.Plain) {t : Text}
    {err : TemplateError} (hb : build e t args = .error err) : err.kind.isHostOnly = false := by
  rw [← failure?_eq_some_iff, failure?_build, Option.or_eq_some_iff, Option.or_eq_some_iff] at hb
  rcases hb with hfault | ⟨-, hopen | ⟨-, hsurplus⟩⟩
  · obtain ⟨before, c, after, -, hc, -⟩ := (firstFault_eq_some_iff _ _ _).1 hfault
    exact not_isHostOnly_of_fault h hc
  · obtain ⟨p, -, rfl⟩ := (unclosed_eq_some_iff t).1 hopen
    rfl
  · obtain ⟨-, rfl⟩ := (surplus_eq_some_iff t).1 hsurplus
    rfl

end Template

end SqlTemplate
