import SqlTemplate.Decimal.Notation

/-! The characters of number literals: digits, signs, the point and the exponent mark. -/

namespace SqlTemplate.Decimal

/-- The characters numbers are written with. -/
def isNumeric (c : Char) : Bool := c.isDigit || c = '-' || c = '+' || c = '.' || c = 'E'

theorem isNumeric_of_isDigit {c : Char} (h : c.isDigit) : isNumeric c := by
  simp [isNumeric, h]

theorem isDigit_of_mem_natText {n : Nat} {c : Char} (h : c ∈ natText n) : c.isDigit :=
  Nat.isDigit_of_mem_toDigits (by decide) (by decide) h

theorem isNumeric_of_mem_intText {n : Int} {c : Char} (h : c ∈ intText n) : isNumeric c := by
  unfold intText at h
  split at h
  next =>
    rcases List.mem_cons.1 h with rfl | h
    · rfl
    · exact isNumeric_of_isDigit (isDigit_of_mem_natText h)
  next => exact isNumeric_of_isDigit (isDigit_of_mem_natText h)

theorem mem_of_mem_withoutZeros {digits : Text} {place : Int} {c : Char}
    (h : c ∈ (withoutZeros digits place).1) : c ∈ digits := by
  have h := List.dropWhile_subset _ (List.mem_reverse.1 h)
  exact List.mem_reverse.1 h

theorem isDigit_or_point_of_mem_positional {digits : Text} (hd : ∀ c ∈ digits, c.isDigit)
    {place : Int} {c : Char} (h : c ∈ positional digits place) : c.isDigit ∨ c = '.' := by
  have hpadded (n : Nat) (x : Char) (hx : x ∈ List.replicate n '0' ++ digits) : x.isDigit := by
    rcases List.mem_append.1 hx with hx | hx
    · obtain rfl := List.eq_of_mem_replicate hx
      rfl
    · exact hd x hx
  unfold positional at h
  split at h
  next =>
    rcases List.mem_append.1 h with h | h
    · exact .inl (hd c h)
    · obtain rfl := List.eq_of_mem_replicate h
      exact .inl rfl
  next =>
    rcases List.mem_append.1 h with h | h
    · exact .inl (hpadded _ c (List.mem_of_mem_take h))
    rcases List.mem_cons.1 h with rfl | h
    · exact .inr rfl
    · exact .inl (hpadded _ c (List.mem_of_mem_drop h))

theorem isNumeric_of_mem_positional {digits : Text} (hd : ∀ c ∈ digits, c.isDigit)
    {place : Int} {c : Char} (h : c ∈ positional digits place) : isNumeric c := by
  rcases isDigit_or_point_of_mem_positional hd h with hc | rfl
  · exact isNumeric_of_isDigit hc
  · rfl

theorem positional_ne_nil {digits : Text} (h : digits ≠ []) (place : Int) :
    positional digits place ≠ [] := by
  unfold positional
  split
  next =>
    intro hnil
    exact h (List.append_eq_nil_iff.1 hnil).1
  next => simp

theorem isNumeric_of_mem_scientific {digits : Text} (hd : ∀ c ∈ digits, c.isDigit)
    {place : Int} {c : Char} (h : c ∈ scientific digits place) : isNumeric c := by
  unfold scientific at h
  simp only [List.mem_append, List.mem_cons] at h
  rcases h with (h | rfl | h) | rfl | rfl | h
  · exact isNumeric_of_isDigit (hd c (List.mem_of_mem_take h))
  · rfl
  · split at h
    next =>
      obtain rfl := List.mem_singleton.1 h
      rfl
    next => exact isNumeric_of_isDigit (hd c (List.mem_of_mem_drop h))
  · rfl
  · split <;> rfl
  · exact isNumeric_of_isDigit (isDigit_of_mem_natText h)

theorem isNumeric_of_mem_notate {digits : Text} (hd : ∀ c ∈ digits, c.isDigit)
    {withExponent : Bool} {place : Int}
    {c : Char} (h : c ∈ notate withExponent digits place) : isNumeric c := by
  cases withExponent with
  | false => exact isNumeric_of_mem_positional hd h
  | true => exact isNumeric_of_mem_scientific hd h

theorem isNumeric_of_mem_grainsText {n : Nat} {c : Char} (h : c ∈ grainsText n) : isNumeric c :=
  isNumeric_of_mem_notate (fun _ hd => isDigit_of_mem_natText (mem_of_mem_withoutZeros hd)) h

theorem isNumeric_of_mem_doubleText {x : Binary64} {c : Char} (h : c ∈ doubleText x) :
    isNumeric c := by
  have htext : ∀ c ∈ (if x.grains = 0 then ['0'] else grainsText x.grains), isNumeric c := by
    intro c hc
    split at hc
    next =>
      obtain rfl := List.mem_singleton.1 hc
      rfl
    next => exact isNumeric_of_mem_grainsText hc
  unfold doubleText at h
  simp only at h
  split at h
  next =>
    rcases List.mem_cons.1 h with rfl | h
    · rfl
    · exact htext c h
  next => exact htext c h

end SqlTemplate.Decimal
