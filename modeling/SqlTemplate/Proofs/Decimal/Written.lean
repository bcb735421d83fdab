import SqlTemplate.Proofs.Decimal.Characters
import SqlTemplate.Proofs.Decimal.Shortest
import SqlTemplate.Proofs.Decimal.Value

/-! The texts that numbers are written as. An integer is written as its canonical decimal, and
a double in one of three forms: digits, digits around a point, or one digit, a point,
more digits and an exponent with a sign. The form is a matter of the double alone. -/

namespace SqlTemplate.Decimal

variable {digits t : Text} {place : Int} {n : Nat}

/-! ### Digits of a natural number -/

theorem digitsValue_natText (n : Nat) : digitsValue (natText n) = n := Nat.ofDigitChars_ten_toDigits

theorem allDigits_natText (n : Nat) : AllDigits (natText n) :=
  fun _ hc => isDigit_of_mem_natText hc

theorem lt_ten_pow_length (n : Nat) : n < 10 ^ (natText n).length := by
  have hlt := digitsValue_lt (allDigits_natText n)
  rwa [digitsValue_natText] at hlt

theorem ten_pow_le_of_lt_length {k : Nat} (hn : n ≠ 0) (hk : k < (natText n).length) :
    10 ^ k ≤ n := by
  by_cases hzero : k = 0
  · subst hzero
    exact Nat.one_le_iff_ne_zero.2 hn
  · rw [← not_lt, ← Nat.length_toDigits_le_iff (by decide) (by omega), not_le]
    exact hk

theorem digitsValue_append_zeros (digits : Text) (k : Nat) :
    digitsValue (digits ++ List.replicate k '0') = digitsValue digits * 10 ^ k := by
  rw [digitsValue, Nat.ofDigitChars_append, Nat.ofDigitChars_replicate_zero, Nat.mul_comm]
  rfl

theorem digitsValue_zeros_append (k : Nat) (digits : Text) :
    digitsValue (List.replicate k '0' ++ digits) = digitsValue digits := by
  rw [digitsValue, Nat.ofDigitChars_append, Nat.ofDigitChars_replicate_zero, Nat.mul_zero]
  rfl

/-- Only zero has a zero in front. -/
theorem head?_natText_ne (hn : n ≠ 0) : (natText n).head? ≠ some '0' := by
  intro hhead
  obtain ⟨r, hr⟩ := List.head?_eq_some_iff.1 hhead
  have hvalue := digitsValue_natText n
  have hdigits : AllDigits r :=
    fun c hc => allDigits_natText n c (by rw [hr]; exact List.mem_cons_of_mem _ hc)
  have hlt := digitsValue_lt hdigits
  rw [hr] at hvalue
  rw [← digitsValue_zeros_append 1 r, List.replicate_one, List.singleton_append, hvalue] at hlt
  exact not_le.2 hlt (ten_pow_le_of_lt_length hn (by rw [hr]; exact Nat.lt_succ_self _))

/-! ### Integers -/

/-- The canonical decimal of an integer: no zero in front of other digits, and a minus in front of a
negative number only. -/
inductive CanonicalInteger : Int → Text → Prop
  | zero : CanonicalInteger 0 ['0']
  | pos {digits : Text} (hd : AllDigits digits) (hne : digits ≠ [])
    (hhead : digits.head? ≠ some '0') :
    CanonicalInteger (digitsValue digits) digits
  | neg {digits : Text} (hd : AllDigits digits) (hne : digits ≠ [])
    (hhead : digits.head? ≠ some '0') :
    CanonicalInteger (-digitsValue digits) ('-' :: digits)

theorem canonical_intText (n : Int) : CanonicalInteger n (intText n) := by
  have hdigits := allDigits_natText n.natAbs
  have hne := natText_ne_nil n.natAbs
  have hvalue := digitsValue_natText n.natAbs
  by_cases hzero : n = 0
  · subst hzero
    exact .zero
  · have hhead := head?_natText_ne (n := n.natAbs) (by omega)
    rw [intText]
    split
    next hneg =>
      have hcanonical := CanonicalInteger.neg hdigits hne hhead
      rwa [hvalue, show -(n.natAbs : Int) = n by omega] at hcanonical
    next hneg =>
      have hcanonical := CanonicalInteger.pos hdigits hne hhead
      rwa [hvalue, show (n.natAbs : Int) = n by omega] at hcanonical

/-! ### Forms -/

/-- The forms of number literals. -/
inductive Form
  | whole
  | point
  | exponent
deriving DecidableEq

namespace Form

/-- The texts of a form, without a sign: `D+`, `D+.D+` and `D.D+E(+|-)D+`. -/
inductive Matches : Form → Text → Prop
  | whole {w : Text} (hw : AllDigits w) (hne : w ≠ []) : Matches .whole w
  | point {w f : Text} (hw : AllDigits w) (hwne : w ≠ []) (hf : AllDigits f) (hfne : f ≠ []) :
    Matches .point (w ++ '.' :: f)
  | exponent {d s : Char} {f e : Text} (hd : d.isDigit) (hf : AllDigits f) (hfne : f ≠ [])
    (hs : s = '+' ∨ s = '-')
    (he : AllDigits e) (hene : e ≠ []) : Matches .exponent (d :: '.' :: (f ++ 'E' :: s :: e))

/-- The texts of a form, with a minus or without a sign. -/
def Literal (form : Form) (t : Text) : Prop := form.Matches t ∨ ∃ r, t = '-' :: r ∧ form.Matches r

variable {form other : Form}

theorem not_mem_of_allDigits {c : Char} (hd : AllDigits digits) (hc : c.isDigit = false) :
    c ∉ digits := by
  intro hmem
  have hdigit := hd c hmem
  rw [hc] at hdigit
  cases hdigit

/-- The characters that tell the form. -/
theorem Matches.marks (h : form.Matches t) :
    ('E' ∈ t ↔ form = .exponent) ∧ ('.' ∈ t ↔ form ≠ .whole) := by
  cases h with
  | whole hw => simp [not_mem_of_allDigits hw]
  | point hw _ hf => simp [not_mem_of_allDigits hw, not_mem_of_allDigits hf]
  | exponent => simp

theorem Literal.marks (h : form.Literal t) :
    ('E' ∈ t ↔ form = .exponent) ∧ ('.' ∈ t ↔ form ≠ .whole) := by
  rcases h with h | ⟨r, rfl, h⟩
  · exact h.marks
  · simpa using h.marks

/-- No text has two forms. -/
theorem Literal.unique (h : form.Literal t) (hother : other.Literal t) : form = other := by
  have hmarks := h.marks
  rw [hother.marks.1, hother.marks.2] at hmarks
  cases form <;> cases other <;> simp at hmarks ⊢

/-- The form that digits are written in without an exponent. -/
def ofPlace (place : Int) : Form := if 0 ≤ place then .whole else .point

end Form

/-! ### Doubles -/

/-- The digits around the point, with zeros in front if there are too few. -/
theorem positional_of_neg (digits : Text) (hplace : place < 0) :
    ∃ w f, positional digits place = w ++ '.' :: f ∧ w ≠ [] ∧ f.length = (-place).toNat ∧
      ∃ k, w ++ f = List.replicate k '0' ++ digits := by
  rw [positional, if_neg (by omega)]
  refine ⟨_, _, rfl, ?_, ?_, _, List.take_append_drop _ _⟩
  · rw [ne_eq, List.take_eq_nil_iff, ← List.length_eq_zero_iff]
    simp only [List.length_append, List.length_replicate]
    omega
  · simp only [List.length_drop, List.length_append, List.length_replicate]
    omega

/-- The first digit, and the others behind the point or a zero if there are none. -/
theorem scientific_of_ne_nil (hne : digits ≠ []) (place : Int) :
    ∃ d f, (d :: f = digits ∨ d :: f = digits ++ ['0'] ∧ digits = [d]) ∧ f ≠ [] ∧
      scientific digits place =
        d :: '.' :: (f ++ 'E' :: (if place + (digits.length : Int) - 1 < 0 then '-' else '+') ::
          natText (place + (digits.length : Int) - 1).natAbs) := by
  obtain ⟨d, r, rfl⟩ := List.exists_cons_of_ne_nil hne
  cases r with
  | nil => exact ⟨d, ['0'], .inr ⟨rfl, rfl⟩, by simp, rfl⟩
  | cons c r => exact ⟨d, c :: r, .inl rfl, by simp, by simp [scientific]⟩

theorem matches_positional (hd : AllDigits digits) (hne : digits ≠ []) (place : Int) :
    (Form.ofPlace place).Matches (positional digits place) := by
  rw [Form.ofPlace]
  split
  next hplace =>
    rw [positional, if_pos hplace]
    exact .whole (allDigits_append.2 ⟨hd, allDigits_zeros _⟩) (by simp [hne])
  next hplace =>
    obtain ⟨w, f, ht, hw, hf, k, hwf⟩ := positional_of_neg digits (Int.not_le.1 hplace)
    have hdigits : AllDigits (w ++ f) := hwf ▸ allDigits_append.2 ⟨allDigits_zeros k, hd⟩
    rw [allDigits_append] at hdigits
    rw [ht]
    exact .point hdigits.1 hw hdigits.2 (List.ne_nil_of_length_pos (by omega))

theorem matches_scientific (hd : AllDigits digits) (hne : digits ≠ []) (place : Int) :
    Form.exponent.Matches (scientific digits place) := by
  obtain ⟨d, f, hdf, hf, ht⟩ := scientific_of_ne_nil hne place
  have hdigits : AllDigits (d :: f) := by
    rcases hdf with hdf | ⟨hdf, -⟩ <;> rw [hdf]
    · exact hd
    · exact allDigits_append.2 ⟨hd, by decide⟩
  obtain ⟨hd, hf'⟩ := List.forall_mem_cons.1 hdigits
  rw [ht]
  exact .exponent hd hf' hf (by split <;> simp) (allDigits_natText _) (natText_ne_nil _)

/-- The place of the last digit that is written. -/
def lastPlace (n : Nat) : Int := (withoutZeros (natText (shortest n).1) (shortest n).2).2

namespace Form

/-- The form that a positive count of grains is written in. -/
def ofGrains (n : Nat) : Form := if needsExponent n then .exponent else ofPlace (lastPlace n)

def ofDouble (x : Binary64) : Form := if x.grains = 0 then .whole else ofGrains x.grains

end Form

theorem matches_grainsText (hn : n ≠ 0) : (Form.ofGrains n).Matches (grainsText n) := by
  have hd : AllDigits (withoutZeros (natText (shortest n).1) (shortest n).2).1 := fun c hc =>
    allDigits_natText _ c (mem_of_mem_withoutZeros hc)
  have hne := withoutZeros_ne_nil (shortest_ne_zero hn) (shortest n).2
  simp only [Form.ofGrains, grainsText, notate]
  split
  next => exact matches_scientific hd hne _
  next => exact matches_positional hd hne _

/-- A finite double is written in its form. -/
theorem literal_doubleText (x : Binary64) : (Form.ofDouble x).Literal (doubleText x) := by
  have hmatches :
      (Form.ofDouble x).Matches (if x.grains = 0 then ['0'] else grainsText x.grains) := by
    rw [Form.ofDouble]
    split
    next => exact .whole (by decide) (by simp)
    next hn => exact matches_grainsText hn
  simp only [doubleText]
  split
  next => exact .inr ⟨_, rfl, hmatches⟩
  next => exact .inl hmatches

end SqlTemplate.Decimal
