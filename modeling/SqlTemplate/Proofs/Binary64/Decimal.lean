import Mathlib.Data.Rat.Floor
import SqlTemplate.Proofs.Binary64.Nearest

/-! Decimals as doubles. A decimal `digits * 10 ^ exponent` is rounded to the double nearest to
it, and the rounding depends on the number alone, not on the digits and exponent that
it is written with. Far out of the range of doubles nothing depends on the exponent. -/

namespace SqlTemplate.Binary64

open Nat (pow)

variable {num den : Nat}

/-! ### Equal quotients -/

theorem nearest_mul_right {c : Nat} (hc : 0 < c) :
    nearest (num * c) (den * c) = nearest num den := by
  have hlow : 2 * (num % den * c) < den * c ↔ 2 * (num % den) < den := by
    rw [← Nat.mul_assoc, Nat.mul_lt_mul_right hc]
  have hhigh : den * c < 2 * (num % den * c) ↔ den < 2 * (num % den) := by
    rw [← Nat.mul_assoc, Nat.mul_lt_mul_right hc]
  simp only [nearest, Nat.mul_div_mul_right _ _ hc, Nat.mul_mod_mul_right, hlow, hhigh]

theorem roundGrains_mul_right {c : Nat} (hc : 0 < c) :
    roundGrains (num * c) (den * c) = roundGrains num den := by
  simp only [roundGrains, Nat.mul_div_mul_right _ _ hc, Nat.mul_right_comm den c,
    nearest_mul_right hc]

/-- Rounding depends on the quotient only. -/
theorem roundGrains_congr {num' den' : Nat} (hden : 0 < den) (hden' : 0 < den')
    (h : num * den' = num' * den) : roundGrains num den = roundGrains num' den' := by
  calc roundGrains num den = roundGrains (num * den') (den * den') :=
        (roundGrains_mul_right hden').symm
    _ = roundGrains (num' * den) (den' * den) := by rw [h, Nat.mul_comm den']
    _ = roundGrains num' den' := roundGrains_mul_right hden

/-! ### Decimals -/

variable {digits digits' : Nat} {exponent exponent' : Int}

theorem ten_zpow_eq (e : Int) :
    (10 : ℚ) ^ e = (pow 10 e.toNat : Nat) / (pow 10 (-e).toNat : Nat) := by
  rcases Int.le_total 0 e with he | he
  · obtain ⟨k, rfl⟩ := Int.eq_ofNat_of_zero_le he
    simp [Nat.pow_eq]
  · obtain ⟨k, hk⟩ := Int.eq_ofNat_of_zero_le (Int.neg_nonneg.2 he)
    obtain rfl : e = -(k : Int) := by omega
    simp [Nat.pow_eq]

theorem decimal_eq (digits : Nat) (exponent : Int) :
    (digits : ℚ) * 10 ^ exponent =
    (digits * pow 10 exponent.toNat : Nat) / (pow 10 (-exponent).toNat : Nat) := by
  rw [ten_zpow_eq, Nat.cast_mul, mul_div_assoc]

theorem pow_ten_pos (k : Nat) : 0 < pow 10 k := Nat.pow_pos (by decide)

/-- The quotient of grains that is rounded stands for the decimal. -/
theorem grains_of_decimal (digits : Nat) (exponent : Int) :
    ((digits * pow 10 exponent.toNat * one : Nat) : ℚ) / (pow 10 (-exponent).toNat : Nat) =
      digits * 10 ^ exponent * one := by
  rw [decimal_eq, Nat.cast_mul, div_mul_eq_mul_div]

theorem roundDecimal_congr (h : (digits : ℚ) * 10 ^ exponent = digits' * 10 ^ exponent') :
    roundDecimal digits exponent = roundDecimal digits' exponent' := by
  have hpos : (0 : ℚ) < (pow 10 (-exponent).toNat : Nat) := by exact_mod_cast pow_ten_pos _
  have hpos' : (0 : ℚ) < (pow 10 (-exponent').toNat : Nat) := by exact_mod_cast pow_ten_pos _
  refine roundGrains_congr (pow_ten_pos _) (pow_ten_pos _) ?_
  have hgrains := grains_of_decimal digits exponent
  rw [h, ← grains_of_decimal digits' exponent', div_eq_div_iff hpos.ne' hpos'.ne'] at hgrains
  exact_mod_cast hgrains

/-- A decimal is read as its rounding. -/
theorem rounds_ofDecimal (negative : Bool) (digits : Nat) (exponent : Int) :
    Rounds negative (signed negative (digits * 10 ^ exponent))
      (ofDecimal negative digits exponent) := by
  have hrounds :=
    rounds_ofGrains negative (digits * pow 10 exponent.toNat * one) (pow_ten_pos (-exponent).toNat)
  rwa [grains_of_decimal, mul_div_cancel_right₀ _ cast_one_pos.ne'] at hrounds

theorem roundDecimal_lt_overflow_iff :
    roundDecimal digits exponent < overflow ↔ (digits : ℚ) * 10 ^ exponent < threshold := by
  rw [roundDecimal, roundRatio, ← lt_threshold_iff _ (pow_ten_pos _), grains_of_decimal,
    mul_div_cancel_right₀ _ cast_one_pos.ne']

/-! ### Out of reach -/

/-- The bounds are those of powers of ten, by far. -/
theorem threshold_le_ten_pow {k : Nat} (hk : 512 ≤ k) : threshold ≤ 10 ^ k := by
  obtain ⟨a, ha⟩ : ∃ a, a = 970 := ⟨_, rfl⟩
  calc threshold ≤ 2 ^ (a + 54) := by
        rw [threshold_eq ha]
        exact sub_le_self _ (by positivity)
    _ = 4 ^ 512 := by rw [show a + 54 = 2 * 512 by omega, pow_mul]; norm_num
    _ ≤ 10 ^ 512 := pow_le_pow_left₀ (by norm_num) (by norm_num) _
    _ ≤ 10 ^ k := pow_le_pow_right₀ (by norm_num) hk

theorem one_le_ten_pow : (one : ℚ) ≤ 10 ^ 358 := by
  obtain ⟨a, ha⟩ : ∃ a, a = 358 := ⟨_, rfl⟩
  rw [one_eq (a := 3 * a) (by omega), ← ha]
  push_cast
  rw [pow_mul]
  exact pow_le_pow_left₀ (by norm_num) (by norm_num) _

/-- A decimal beyond `10 ^ 512` is infinite. -/
theorem overflow_le_roundDecimal (h : (10 : ℚ) ^ 512 ≤ digits * 10 ^ exponent) :
    overflow ≤ roundDecimal digits exponent := by
  rw [← not_lt, roundDecimal_lt_overflow_iff, not_lt]
  exact (threshold_le_ten_pow le_rfl).trans h

/-- A decimal below `10 ^ -400` is zero. -/
theorem roundDecimal_eq_zero (h : (digits : ℚ) * 10 ^ exponent ≤ 10 ^ (-400 : Int)) :
    roundDecimal digits exponent = 0 := by
  refine roundGrains_eq_zero (pow_ten_pos _) ?_
  rw [grains_of_decimal]
  calc (digits : ℚ) * 10 ^ exponent * one ≤ 10 ^ (-400 : Int) * 10 ^ 358 :=
        mul_le_mul h one_le_ten_pow cast_one_pos.le (zpow_nonneg (by norm_num) _)
    _ = 10 ^ (-42 : Int) := by rw [← zpow_natCast, ← zpow_add₀ (by norm_num)]; norm_num
    _ < 1 / 2 := by norm_num

theorem ofGrains_of_overflow {n n' : Nat} (hn : overflow ≤ n) (hn' : overflow ≤ n') (b : Bool) :
    ofGrains b n = ofGrains b n' := by
  rw [ofGrains, ofGrains, magnitudeOf, magnitudeOf, if_neg (not_lt.2 hn), if_neg (not_lt.2 hn')]

end SqlTemplate.Binary64
