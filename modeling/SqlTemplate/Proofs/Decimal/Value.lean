import Mathlib.Data.List.Induction
import SqlTemplate.Proofs.Binary64.Decimal
import SqlTemplate.Proofs.Decimal.Numerals
import SqlTemplate.Proofs.Decimal.Shortest

/-! The number that a numeral stands for, and the double it is read as. Reading rounds correctly
as long as all digits of the exponent count. Those that no longer count make a difference
only if the digits of the numeral itself reach as far as such an exponent. -/

namespace SqlTemplate.Decimal

open Binary64 (signed Rounds)

/-- The exponent with all its digits. -/
def Exponent.exact (e : Exponent) : Int :=
  if e.sign = some '-' then -(digitsValue e.digits : Int) else digitsValue e.digits

namespace Numeral

/-- The digits around the point. -/
def digits (n : Numeral) : Text := n.whole ++ n.fraction.getD []

def places (n : Numeral) : Nat := (n.fraction.getD []).length

def exactExponent (n : Numeral) : Int := (n.exponent.map Exponent.exact).getD 0

/-- The exponent with the digits that count. -/
def countedExponent (n : Numeral) : Int := (n.exponent.map Exponent.value).getD 0

/-- The number that the digits stand for under an exponent. -/
def valueAt (n : Numeral) (exponent : Int) : ℚ :=
  signed n.negative (digitsValue n.digits * 10 ^ (exponent - n.places))

def value (n : Numeral) : ℚ := n.valueAt n.exactExponent

/-- All digits of the exponent count, or those of the numeral do not reach as far as the others. -/
def InReach (n : Numeral) : Prop := n.exactExponent.natAbs < 655360 ∨ n.digits.length ≤ 65000

end Numeral

variable {digits : Text}

/-! ### Digits -/

theorem digitsValue_concat (digits : Text) (c : Char) :
    digitsValue (digits ++ [c]) = 10 * digitsValue digits + (c.toNat - 48) := by
  rw [digitsValue, Nat.ofDigitChars_append, Nat.ofDigitChars_cons, Nat.ofDigitChars_nil]
  rfl

theorem toNat_lt_of_isDigit {c : Char} (h : c.isDigit) : c.toNat - 48 < 10 := by
  rw [Char.isDigit, Bool.and_eq_true, decide_eq_true_eq, decide_eq_true_eq] at h
  have hle : c.toNat ≤ 57 := h.2
  omega

theorem digitsValue_lt (h : AllDigits digits) : digitsValue digits < 10 ^ digits.length := by
  induction digits using List.reverseRecOn with
  | nil => decide
  | append_singleton ds c ih =>
    have hds := ih fun d hd => h d (by simp [hd])
    have hc := toNat_lt_of_isDigit (h c (by simp))
    rw [digitsValue_concat, List.length_append, List.length_singleton, Nat.pow_succ]
    omega

theorem exponentValue_concat (digits : Text) (c : Char) :
    exponentValue (digits ++ [c]) =
      if exponentValue digits < 65536 then 10 * exponentValue digits + (c.toNat - 48)
      else exponentValue digits := by
  rw [exponentValue, List.foldl_append]
  rfl

/-- Digits of an exponent are left out only behind six of them, and what counts is large then. -/
theorem exponentValue_cases (digits : Text) :
    exponentValue digits = digitsValue digits ∨
      65536 ≤ exponentValue digits ∧ 65536 ≤ digitsValue digits ∧ 655360 ≤ digitsValue digits := by
  induction digits using List.reverseRecOn with
  | nil => exact .inl rfl
  | append_singleton ds c ih =>
    rw [exponentValue_concat, digitsValue_concat]
    split
    next hlt => rcases ih with h | h <;> omega
    next hge => rcases ih with h | h <;> omega

namespace Numeral

variable {n : Numeral}

/-! ### Exponents -/

/-- The counted exponent is the exact one, or both are large, with the same sign. -/
theorem countedExponent_cases (n : Numeral) :
    n.countedExponent = n.exactExponent ∨
      655360 ≤ n.exactExponent.natAbs ∧
        (65536 ≤ n.countedExponent ∧ 65536 ≤ n.exactExponent ∨
          n.countedExponent ≤ -65536 ∧ n.exactExponent ≤ -65536) := by
  cases he : n.exponent with
  | none => simp [countedExponent, exactExponent, he]
  | some e =>
    have hcases := exponentValue_cases e.digits
    simp only [countedExponent, exactExponent, he, Option.map_some, Option.getD_some,
      Exponent.value, Exponent.exact]
    split <;> omega

/-! ### Rounding -/

theorem toBinary64_eq (n : Numeral) :
    n.toBinary64 =
      Binary64.ofDecimal n.negative (digitsValue n.digits) (n.countedExponent - n.places) := by
  rw [toBinary64, countedExponent, digits, places]
  cases n.exponent <;> rfl

theorem rounds_countedExponent (n : Numeral) :
    n.toBinary64.Rounds n.negative (n.valueAt n.countedExponent) := by
  rw [toBinary64_eq, valueAt]
  exact Binary64.rounds_ofDecimal _ _ _

/-- Digits that do not reach far leave no number in reach of an exponent that is large. -/
theorem roundDecimal_of_large {d : Nat} {e : Int} (hd : d ≠ 0) (he : 512 ≤ e) :
    Binary64.overflow ≤ Binary64.roundDecimal d e := by
  refine Binary64.overflow_le_roundDecimal ?_
  have hone : (1 : ℚ) ≤ d := by exact_mod_cast Nat.one_le_iff_ne_zero.2 hd
  calc (10 : ℚ) ^ 512 = 10 ^ (512 : Int) := by rw [← zpow_natCast]; rfl
    _ ≤ 10 ^ e := zpow_le_zpow_right₀ (by norm_num) he
    _ ≤ d * 10 ^ e := le_mul_of_one_le_left (zpow_nonneg (by norm_num) _) hone

theorem roundDecimal_of_small {d k : Nat} {e : Int} (hd : d < 10 ^ k) (he : e + k ≤ -400) :
    Binary64.roundDecimal d e = 0 := by
  refine Binary64.roundDecimal_eq_zero ?_
  have hle : (d : ℚ) ≤ 10 ^ (k : Int) := by
    rw [zpow_natCast]
    exact_mod_cast hd.le
  calc (d : ℚ) * 10 ^ e ≤ 10 ^ (k : Int) * 10 ^ e :=
        mul_le_mul_of_nonneg_right hle (zpow_nonneg (by norm_num) _)
    _ = 10 ^ (e + k) := by rw [← zpow_add₀ (by norm_num), add_comm]
    _ ≤ 10 ^ (-400 : Int) := zpow_le_zpow_right₀ (by norm_num) he

theorem places_le (n : Numeral) : n.places ≤ n.digits.length := by
  rw [places, digits, List.length_append]
  omega

theorem Valid.allDigits (hn : n.Valid) : AllDigits n.digits := by
  refine allDigits_append.2 ⟨hn.whole, ?_⟩
  cases hf : n.fraction with
  | none => exact List.forall_mem_nil _
  | some f => exact hn.fraction f hf

/-- In reach, the digits of the exponent that do not count make no difference. -/
theorem toBinary64_eq_exact (hn : n.Valid) (h : n.InReach) :
    n.toBinary64 =
      Binary64.ofDecimal n.negative (digitsValue n.digits) (n.exactExponent - n.places) := by
  rw [toBinary64_eq]
  rcases n.countedExponent_cases with heq | ⟨hlarge, hsame⟩
  · rw [heq]
  · have hfew : n.digits.length ≤ 65000 := h.resolve_left (by omega)
    have hplaces := n.places_le
    by_cases hzero : digitsValue n.digits = 0
    · rw [hzero, Binary64.ofDecimal, Binary64.ofDecimal, roundDecimal_zero, roundDecimal_zero]
    · rcases hsame with ⟨hc, he⟩ | ⟨hc, he⟩
      · exact Binary64.ofGrains_of_overflow (roundDecimal_of_large hzero (by omega))
          (roundDecimal_of_large hzero (by omega)) _
      · have hlt := digitsValue_lt hn.allDigits
        rw [Binary64.ofDecimal, Binary64.ofDecimal, roundDecimal_of_small hlt (by omega),
          roundDecimal_of_small hlt (by omega)]

/-- A numeral in reach is read as the rounding of the number it stands for. -/
theorem rounds_value (hn : n.Valid) (h : n.InReach) : n.toBinary64.Rounds n.negative n.value := by
  rw [toBinary64_eq_exact hn h, value, valueAt]
  exact Binary64.rounds_ofDecimal _ _ _

/-! ### Integers -/

theorem wholeValue_eq_value (hfraction : n.fraction = none) (hexponent : n.exponent = none) :
    (n.wholeValue : ℚ) = n.value := by
  have hdigits : n.digits = n.whole := by simp [digits, hfraction]
  have hexact : n.exactExponent = 0 := by simp [exactExponent, hexponent]
  have hplaces : n.places = 0 := by simp [places, hfraction]
  rw [value, valueAt, hdigits, hexact, hplaces, wholeValue, signed]
  split <;> simp

theorem isInteger_iff : n.isInteger ↔ n.fraction = none ∧ n.exponent = none := by
  rw [isInteger, Bool.and_eq_true, Option.isNone_iff_eq_none, Option.isNone_iff_eq_none]

theorem fits_iff {m : Int} {k : Int64} : Binary64.fits m ∧ Int64.ofInt m = k ↔ m = k.toInt := by
  have hmin : Int64.minValue.toInt = -2 ^ 63 := by decide
  have hmax : Int64.maxValue.toInt = 2 ^ 63 - 1 := by decide
  rw [Binary64.fits, Bool.and_eq_true, decide_eq_true_eq, decide_eq_true_eq]
  constructor
  · rintro ⟨⟨hlow, hhigh⟩, rfl⟩
    exact (Int64.toInt_ofInt_of_le (by omega) (by omega)).symm
  · rintro rfl
    exact ⟨⟨k.minValue_le_toInt, k.toInt_le⟩, Int64.ofInt_toInt k⟩

/-- A numeral is the integer it stands for if it is written as one and fits. -/
theorem toNumeric_eq_int_iff {k : Int64} :
    n.toNumeric = .int k ↔ n.fraction = none ∧ n.exponent = none ∧ n.value = k.toInt := by
  have hread : n.toNumeric = .int k ↔ n.isInteger ∧ n.wholeValue = k.toInt := by
    rw [← fits_iff, ← and_assoc, ← Bool.and_eq_true, toNumeric]
    split
    next h => simp [h]
    next h => simp [h]
  rw [hread, isInteger_iff, and_assoc]
  refine and_congr_right fun hfraction => and_congr_right fun hexponent => ?_
  rw [← wholeValue_eq_value hfraction hexponent, Int.cast_inj]

theorem toNumeric_eq_float (h : ∀ k, n.toNumeric ≠ .int k) : n.toNumeric = .float n.toBinary64 := by
  rw [toNumeric] at h ⊢
  split
  next hint =>
    rw [if_pos hint] at h
    exact absurd rfl (h _)
  next => rfl

end Numeral

end SqlTemplate.Decimal
