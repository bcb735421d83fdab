import SqlTemplate.Proofs.Template.Outline

/-! Outlines and builds agree. A template has an outline exactly if some arguments build it,
as many as the outline says; the braces are at fault for the one as for the other, and
where there is no outline arguments exist with which building reports nothing else. -/

namespace SqlTemplate

/-- A value that the placeholder takes. -/
def Placeholder.sample : Placeholder → Value
  | .generic | .int | .float => .null
  | .array | .field => .list []

namespace Template

theorem fragment_sample (e : Escaper) (kind : Placeholder) :
    ∃ w, fragment e kind kind.sample = .ok w := by
  cases kind <;> exact ⟨_, rfl⟩

theorem isSkip_sample (kind : Placeholder) : kind.sample.isSkip = false := by
  cases kind <;> rfl

/-- Arguments that leave nothing to blame but the braces. -/
def sampleArgs (t : Text) : List Value := (kinds t).map Placeholder.sample

theorem bindingFault_sampleArgs (e : Escaper) (u v : Text) :
    bindingFault e (sampleArgs (u ++ '?' :: v)) u v = none := by
  refine (bindingFault_eq_none_iff u v).2
    ⟨(Placeholder.before v).sample, ?_, ?_, fun _ => fragment_sample e _⟩
  · simp [sampleArgs, getElem?_kinds]
  · simp [isSkip_sample]

theorem failure?_build_sampleArgs (e : Escaper) (t : Text) :
    failure? (build e t (sampleArgs t)) = failure? (outline t) := by
  have hfault : firstFault (fault e (sampleArgs t)) [] t = firstFault braceFault [] t := by
    refine firstFault_congr fun u c v ht => ?_
    by_cases hq : c = '?'
    · subst hq ht
      exact bindingFault_sampleArgs e u v
    · rw [fault, if_neg hq]
  have hsurplus : surplus (sampleArgs t) t = none :=
    (surplus_eq_none_iff _ t).2 (by simp [sampleArgs, length_kinds])
  rw [failure?_build, failure?_outline, hfault, hsurplus, Option.or_none]

/-! ### Faults of the braces -/

theorem isStructural_of_bindingFault {e : Escaper} {args : List Value} {u v : Text}
    {err : TemplateError} (h : bindingFault e args u v = some err) : err.isStructural = false := by
  rcases bindingFault_cases h with ⟨-, rfl⟩ | ⟨-, -, rfl⟩ | ⟨arg, reason, -, -, -, rfl⟩
  all_goals rfl

/-- A fault of the braces that comes first for the build comes first among the braces. -/
theorem isFirstFault_braceFault {e : Escaper} {args : List Value} {t : Text} {err : TemplateError}
    (h : IsFirstFault (fault e args) t err) (hs : err.isStructural) :
    IsFirstFault braceFault t err := by
  obtain ⟨u, c, v, ht, hc, hlt⟩ := h
  refine ⟨u, c, v, ht, ?_, fun b d w hb hl => braceFault_eq_none_of_fault (hlt b d w hb hl)⟩
  by_cases hq : c = '?'
  · subst hq
    simp [isStructural_of_bindingFault hc] at hs
  · rwa [fault, if_neg hq] at hc

theorem outline_eq_error_of_build {e : Escaper} {args : List Value} {t : Text} {err : TemplateError}
    (h : build e t args = .error err) (hs : err.isStructural) : outline t = .error err := by
  rw [← failure?_eq_some_iff, failure?_build, Option.or_eq_some_iff, ← isFirstFault_iff,
    ← faultless_iff] at h
  rw [← failure?_eq_some_iff, failure?_outline, Option.or_eq_some_iff, ← isFirstFault_iff,
    ← faultless_iff]
  rcases h with hfirst | ⟨hnone, hend⟩
  · exact .inl (isFirstFault_braceFault hfirst hs)
  · refine .inr ⟨(faultless_fault_iff.1 hnone).1, ?_⟩
    rcases Option.or_eq_some_iff.1 hend with hopen | ⟨-, hsurplus⟩
    · exact hopen
    · obtain ⟨-, rfl⟩ := (surplus_eq_some_iff t).1 hsurplus
      cases hs

/-- A template has an outline exactly if some arguments build it, and these are as many as the
outline has slots. A build that fails with a fault of the braces fails as the outline does;
and if there is no outline, no arguments build the template, and some fail with the very error
of the outline. -/
theorem outline_agrees_with_build (e : Escaper) (t : Text) :
    ((∃ o, outline t = .ok o) ↔ ∃ args s, build e t args = .ok s) ∧
    (∀ o args s, outline t = .ok o → build e t args = .ok s → args.length = o.arity) ∧
    (∀ args err, build e t args = .error err → err.isStructural → outline t = .error err) ∧
    ∀ err, outline t = .error err →
      (∀ args, ∃ err', build e t args = .error err') ∧ ∃ args, build e t args = .error err := by
  have hok : (∃ args s, build e t args = .ok s) → ∃ o, outline t = .ok o := by
    rintro ⟨args, s, hs⟩
    obtain ⟨hfault, hopen, -⟩ := (exists_build_eq_ok_iff e t args).1 ⟨s, hs⟩
    exact (exists_outline_eq_ok_iff t).2 ⟨(faultless_fault_iff.1 hfault).1, hopen⟩
  refine ⟨⟨fun h => ⟨sampleArgs t, ?_⟩, hok⟩, fun o args s ho hs => ?_,
    fun args err => outline_eq_error_of_build, fun err herr => ⟨fun args => ?_, sampleArgs t, ?_⟩⟩
  · rwa [← failure?_eq_none_iff, failure?_build_sampleArgs, failure?_eq_none_iff]
  · rw [arity_of_outline ho]
    exact ((exists_build_eq_ok_iff e t args).1 ⟨s, hs⟩).2.2
  · cases hb : build e t args with
    | error err' => exact ⟨err', rfl⟩
    | ok s =>
      obtain ⟨o, ho⟩ := hok ⟨args, s, hb⟩
      rw [ho] at herr
      cases herr
  · rwa [← failure?_eq_some_iff, failure?_build_sampleArgs, failure?_eq_some_iff]

end Template

end SqlTemplate
