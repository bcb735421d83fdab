import SqlTemplate.Proofs.Decimal.ReadBack
import SqlTemplate.Proofs.Template.Acceptance

/-! What the number placeholders write. Their fragments stand in the statement without quotes,
and whatever the value is, the text of a host object or of a client among them, they are
numbers in a fixed notation or `NULL`. The integers written for doubles and for texts of digits
are exact: what is out of range shows as zero or as an end of the range, and nothing
else is lost but a fraction. -/

namespace SqlTemplate.Template

open Binary64 (InRange clamped threshold towardZero)
open Decimal (CanonicalInteger Form Numeral intText isPadding)

variable {e : Escaper} {v : Value} {w : Text}

theorem canonical_of_fragment_int (hv : v ≠ .null) (h : fragment e .int v = .ok w) :
    CanonicalInteger v.toInt.toInt w := by
  rw [fragment_int_of_ne_null hv] at h
  split at h
  next => cases h
  next =>
    cases h
    exact Decimal.canonical_intText _

theorem literal_of_fragment_float (hv : v ≠ .null) (h : fragment e .float v = .ok w) :
    (Form.ofDouble v.toDouble).Literal w ∧ (Decimal.textToDouble w).equal v.toDouble := by
  rw [fragment_float_of_ne_null hv] at h
  split at h
  next => cases h
  next =>
    obtain ⟨hx, rfl⟩ := doubleLiteral_eq_ok h
    exact ⟨Decimal.literal_doubleText _, Decimal.textToDouble_doubleText hx⟩

/-- The integer placeholder writes the canonical decimal of a 64-bit integer, the one that the
value counts as, and the double placeholder a number in one of three forms, which reads back as the
double that the value counts as; both write `NULL` for no value but `NULL`. Neither refuses a text
or a host object. -/
theorem number_placeholders_write_numbers (e : Escaper) (v : Value) :
    (∀ w, fragment e .int v = .ok w → v = .null ∧ w = "NULL".toList ∨
      v ≠ .null ∧ ∃ n : Int, -2 ^ 63 ≤ n ∧ n < 2 ^ 63 ∧ n = v.toInt.toInt ∧ CanonicalInteger n w) ∧
    (∀ w, fragment e .float v = .ok w → v = .null ∧ w = "NULL".toList ∨
      v ≠ .null ∧ (∃ form : Form, form.Literal w) ∧ (Decimal.textToDouble w).equal v.toDouble) ∧
    ((∃ s, v = .str s) ∨ (∃ o, v = .host o) →
      (∃ w, fragment e .int v = .ok w) ∧ ∃ w, fragment e .float v = .ok w) := by
  refine ⟨fun w h => ?_, fun w h => ?_, ?_⟩
  · by_cases hv : v = .null
    · subst hv
      cases h
      exact .inl ⟨rfl, rfl⟩
    · exact .inr ⟨hv, v.toInt.toInt, v.toInt.le_toInt, v.toInt.toInt_lt, rfl,
        canonical_of_fragment_int hv h⟩
  · by_cases hv : v = .null
    · subst hv
      cases h
      exact .inl ⟨rfl, rfl⟩
    · obtain ⟨hform, hequal⟩ := literal_of_fragment_float hv h
      exact .inr ⟨hv, ⟨_, hform⟩, hequal⟩
  · intro hv
    rw [fragment_accepted_iff, fragment_accepted_iff]
    rcases hv with ⟨s, rfl⟩ | ⟨o, rfl⟩ <;> simp [Placeholder.Accepts, Value.leaves]

/-- A text that goes on behind its number. -/
theorem number_placeholders_of_hostile_text :
    fragment .ansi .int (.str "-007; DROP TABLE users".toList) = .ok "-7".toList ∧
    (∃ n : Int, -2 ^ 63 ≤ n ∧ n < 2 ^ 63 ∧
      n = (Value.str "-007; DROP TABLE users".toList).toInt.toInt ∧
      CanonicalInteger n "-7".toList) ∧
    ∃ w, fragment .ansi .float (.str "-007; DROP TABLE users".toList) = .ok w ∧
    (∃ form : Form, form.Literal w) ∧
      (Decimal.textToDouble w).equal (Value.str "-007; DROP TABLE users".toList).toDouble := by
  obtain ⟨hint, hfloat, hwritten⟩ :=
    number_placeholders_write_numbers .ansi (.str "-007; DROP TABLE users".toList)
  have hw : fragment .ansi .int (.str "-007; DROP TABLE users".toList) = .ok "-7".toList := rfl
  obtain ⟨w, hdouble⟩ := (hwritten (.inl ⟨_, rfl⟩)).2
  exact ⟨hw, ((hint _ hw).resolve_left (by simp)).2, w, hdouble,
    ((hfloat w hdouble).resolve_left (by simp)).2⟩

/-! ### Integers -/

/-- The integer placeholder writes the whole part of a double toward zero if that is a 64-bit
integer, and zero for every other double. A double that a text was read as is drawn to the range
instead: it is its whole part there, beyond it the end on the side of its sign, and zero only if it
is not finite. -/
theorem integers_of_doubles (e : Escaper) (x : Binary64) :
    fragment e .int (.float x) = .ok (intText (Value.float x).toInt.toInt) ∧
    (Value.float x).toInt.toInt =
      (if x.isFinite ∧ InRange (towardZero x.value) then towardZero x.value else 0) ∧
    x.clampToInt64.toInt =
      if x.isFinite then
        if InRange (towardZero x.value) then towardZero x.value
        else if x.negative then -2 ^ 63 else 2 ^ 63 - 1
      else 0 := by
  refine ⟨rfl, Binary64.toInt_toInt64 x, ?_⟩
  rw [Binary64.toInt_clampToInt64]
  congr 1
  split
  next hin => exact Binary64.clamped_of_inRange hin
  next hout => exact Binary64.clamped_towardZero_of_not_inRange hout

theorem fragment_int_of_text {t : Text}
    (hv : v = .str t ∨ ∃ o, v = .host o ∧ o.numericText = some t) :
    fragment e .int v = .ok (intText (Decimal.textToInt t).toInt) := by
  rcases hv with rfl | ⟨o, rfl, ho⟩
  · rfl
  · show Except.ok (intText ((o.numericText.map Decimal.textToInt).getD 0).toInt) = _
    rw [ho]
    rfl

/-- For a text that begins with an integer, of however many digits, the integer placeholder writes
this integer, or the end of the 64-bit range that it is beyond. It writes zero only for one so large
that its rounding is no finite double. -/
theorem integer_texts_are_clamped (e : Escaper) {v : Value} {t : Text} {n : Numeral}
    (hv : v = .str t ∨ ∃ o, v = .host o ∧ o.numericText = some t)
    (hn : n.Longest (t.dropWhile isPadding))
    (hfraction : n.fraction = none) (hexponent : n.exponent = none) :
    (n.wholeValue : ℚ) = n.value ∧
    fragment e .int v =
      .ok (intText (if |n.value| < threshold then clamped n.wholeValue else 0)) := by
  refine ⟨Numeral.wholeValue_eq_value hfraction hexponent, ?_⟩
  rw [fragment_int_of_text hv, Decimal.toInt_textToInt hn hfraction hexponent]

/-- The integer next to the lower end, whose rounding is that end. -/
theorem integer_texts_are_clamped_below :
    (Numeral.mk (some '-') "9223372036854775809".toList none none).Longest
      ((" -9223372036854775809; DROP".toList).dropWhile isPadding) ∧
    fragment .ansi .int (.str " -9223372036854775809; DROP".toList) =
      .ok "-9223372036854775808".toList := by
  have hn : (Numeral.mk (some '-') "9223372036854775809".toList none none).Longest
      ((" -9223372036854775809; DROP".toList).dropWhile isPadding) :=
    (Numeral.longest_of_read? (r := "; DROP".toList) rfl).1
  obtain ⟨hvalue, hfragment⟩ := integer_texts_are_clamped .ansi (.inl rfl) hn rfl rfl
  have hwhole : (Numeral.mk (some '-') "9223372036854775809".toList none none).wholeValue =
      -9223372036854775809 := by
    decide
  have hlt : |(-9223372036854775809 : ℚ)| < threshold :=
    lt_trans (by norm_num) (Binary64.two_pow_lt_threshold (k := 64) (by decide))
  rw [← hvalue, hwhole] at hfragment
  refine ⟨hn, hfragment.trans ?_⟩
  rw [if_pos (by exact_mod_cast hlt)]
  rfl

end SqlTemplate.Template
