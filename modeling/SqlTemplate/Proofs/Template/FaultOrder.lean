import SqlTemplate.Proofs.Template.Failure

/-! The order in which faults are reported. The error of a build is that of the first character
at fault; only without such a character is it the block left open, and only without
that the arguments left over. The position in an error is one of the blamed character. -/

namespace SqlTemplate

/-- The character of the template that an error with a position blames. -/
def TemplateError.blamed : TemplateError → Char
  | .nesting _ | .unmatchedOpen _ => '\x7b'
  | .unmatchedClose _ => '\x7d'
  | .missingArgument _ _ | .tooManyArguments _ _ | .invalidSkip _ _ | .refused _ _ _ => '?'

namespace Template

variable {e : Escaper} {args : List Value} {before after : Text} {c : Char} {err : TemplateError}

/-! ### Blame -/

theorem blames_of_braceFault (h : braceFault before c after = some err) :
    err.position? = some before.size ∧ err.blamed = c := by
  unfold braceFault at h
  split at h
  next =>
    obtain ⟨p, -, rfl⟩ := Option.map_eq_some_iff.1 h
    exact ⟨rfl, rfl⟩
  next =>
    split at h
    next => cases h
    next => cases h; exact ⟨rfl, rfl⟩
  next => cases h

theorem blames_of_bindingFault (h : bindingFault e args before after = some err) :
    err.position? = some before.size ∧ err.blamed = '?' := by
  rcases bindingFault_cases h with ⟨-, rfl⟩ | ⟨-, -, rfl⟩ | ⟨arg, reason, -, -, -, rfl⟩
  all_goals exact ⟨rfl, rfl⟩

theorem blames_of_fault (h : fault e args before c after = some err) :
    err.position? = some before.size ∧ err.blamed = c := by
  by_cases hq : c = '?'
  · subst hq
    exact blames_of_bindingFault h
  · rw [fault, if_neg hq] at h
    exact blames_of_braceFault h

theorem position_of_isFirstFault {t : Text} (h : IsFirstFault (fault e args) t err) {p : Nat}
    (hp : err.position? = some p) :
    ∃ before after, t = before ++ err.blamed :: after ∧ before.size = p := by
  obtain ⟨before, c, after, rfl, hc, -⟩ := h
  obtain ⟨hpos, rfl⟩ := blames_of_fault hc
  rw [hpos] at hp
  exact ⟨before, after, rfl, Option.some.inj hp⟩

/-! ### The order of faults -/

theorem or_eq_some_iff_isFirstFault (f : Check) (t : Text) (later : Option TemplateError) :
    (firstFault f [] t).or later = some err ↔ IsFirstFault f t err ∨ Faultless f t ∧
    later = some err := by
  rw [Option.or_eq_some_iff, isFirstFault_iff, faultless_iff]

/-- A build fails with the first fault of its template. If there is none it fails with the block
that is left open, and if there is none of these either with the surplus of arguments. The position
it reports is one of the character it blames. -/
theorem build_eq_error_iff (e : Escaper) (t : Text) (args : List Value) (err : TemplateError) :
    (build e t args = .error err ↔
      IsFirstFault (fault e args) t err ∨
      Faultless (fault e args) t ∧
        ((∃ p, openIn t = some p ∧ err = .unmatchedOpen p) ∨
          openIn t = none ∧ t.count '?' < args.length ∧
          err = .tooManyArguments (t.count '?') args.length)) ∧
    (build e t args = .error err →
      ∀ p, err.position? = some p → ∃ before after, t = before ++ err.blamed :: after ∧
      before.size = p) := by
  have hiff : build e t args = .error err ↔ IsFirstFault (fault e args) t err ∨
      Faultless (fault e args) t ∧
      (unclosed t = some err ∨ openIn t = none ∧ surplus args t = some err) := by
    rw [← failure?_eq_some_iff, failure?_build, or_eq_some_iff_isFirstFault,
      Option.or_eq_some_iff, unclosed, Option.map_eq_none_iff]
  refine ⟨by rw [hiff, unclosed_eq_some_iff, surplus_eq_some_iff], fun hbuild p hp => ?_⟩
  rcases hiff.1 hbuild with hfirst | ⟨-, hopen | ⟨-, hsurplus⟩⟩
  · exact position_of_isFirstFault hfirst hp
  · obtain ⟨q, hq, rfl⟩ := (unclosed_eq_some_iff t).1 hopen
    obtain ⟨u, v, ht, hu, -⟩ := (openIn_eq_some_iff t q).1 hq
    exact ⟨u, v, ht, by simpa [TemplateError.position?, hu] using hp⟩
  · obtain ⟨-, rfl⟩ := (surplus_eq_some_iff t).1 hsurplus
    simp [TemplateError.position?] at hp

end Template

end SqlTemplate
