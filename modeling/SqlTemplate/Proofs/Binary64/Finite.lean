import Mathlib.Algebra.Group.Nat.Defs
import SqlTemplate.Value.Coercion

/-! Which numbers become finite doubles. A count of grains below the overflow has a finite
double, rounding at most doubles a count, and so every 64-bit integer and every text
is a finite double. -/

namespace SqlTemplate

namespace Binary64

/-! ### Counts of grains -/

theorem overflow_eq {k : Nat} (hk : k = 2098) : overflow = 2 ^ k := by
  rw [hk]
  decide +kernel

theorem log2_lt_of_lt_overflow {n : Nat} (h : n < overflow) : n.log2 < 2098 := by
  by_cases hn : n = 0
  · simp [hn]
  · -- The exponent gets a name so that the power is not computed.
    obtain ⟨k, hk⟩ : ∃ k, k = 2098 := ⟨_, rfl⟩
    rw [overflow_eq hk] at h
    rw [← hk]
    exact (Nat.log2_lt hn).2 h

theorem spacing_le {n : Nat} (h : n < overflow) : spacing n ≤ 2045 := by
  have hlog := log2_lt_of_lt_overflow h
  unfold spacing
  omega

/-- A count of grains is less than `2 ^ 53` spacings. -/
theorem div_spacing_lt (n : Nat) : n / 2 ^ spacing n < 2 ^ 53 := by
  refine Nat.div_lt_of_lt_mul ?_
  calc n < 2 ^ (n.log2 + 1) := Nat.lt_log2_self
    _ ≤ 2 ^ (spacing n + 53) := Nat.pow_le_pow_right (by omega) (by unfold spacing; omega)
    _ = 2 ^ spacing n * 2 ^ 53 := Nat.pow_add ..

theorem magnitudeOf_lt_infinity {n : Nat} (h : n < overflow) : magnitudeOf n < infinity := by
  have hs := spacing_le h
  have hq := div_spacing_lt n
  simp only [magnitudeOf, infinity, Nat.pow_eq, if_pos h]
  omega

theorem magnitudeOf_le_infinity (n : Nat) : magnitudeOf n ≤ infinity := by
  by_cases h : n < overflow
  · exact Nat.le_of_lt (magnitudeOf_lt_infinity h)
  · exact Nat.le_of_eq (if_neg h)

theorem magnitude_ofGrains (negative : Bool) (n : Nat) :
    (ofGrains negative n).magnitude = magnitudeOf n := by
  have hle := magnitudeOf_le_infinity n
  simp only [infinity, Nat.pow_eq] at hle
  simp only [magnitude, ofGrains, UInt64.toNat_ofNat', Nat.pow_eq]
  cases negative <;> simp only [Bool.false_eq_true, if_false, if_true] <;> omega

theorem isFinite_ofGrains (negative : Bool) {n : Nat} (h : n < overflow) :
    (ofGrains negative n).isFinite := by
  rw [isFinite, magnitude_ofGrains]
  exact decide_eq_true (magnitudeOf_lt_infinity h)

theorem not_isNaN_of_isFinite {x : Binary64} (hx : x.isFinite) : x.isNaN = false :=
  decide_eq_false (Nat.not_lt.2 (Nat.le_of_lt (of_decide_eq_true hx)))

theorem equal_self {x : Binary64} (hx : x.isFinite) : x.equal x := by
  simp [equal, not_isNaN_of_isFinite hx]

/-- The sign of zero makes no difference. -/
theorem equal_ofGrains {b b' : Bool} {n : Nat} (hfinite : (ofGrains b n).isFinite)
    (h : b = b' ∨ n = 0) : (ofGrains b n).equal (ofGrains b' n) := by
  rcases h with rfl | rfl
  · exact equal_self hfinite
  · cases b <;> cases b' <;> decide +kernel

/-! ### Rounding -/

theorem nearest_le (num den : Nat) : nearest num den ≤ num / den + 1 := by
  unfold nearest
  simp only
  split
  next => omega
  next =>
    split
    next => omega
    next => have := Nat.mod_lt (num / den) (y := 2) (by omega); omega

theorem two_pow_spacing_le (n : Nat) : 2 ^ spacing n ≤ n + 1 := by
  by_cases hn : n = 0
  · simp [hn, spacing]
  · calc 2 ^ spacing n ≤ 2 ^ n.log2 := Nat.pow_le_pow_right (by omega) (Nat.sub_le _ _)
      _ ≤ n := Nat.log2_self_le hn
      _ ≤ n + 1 := Nat.le_succ n

/-- Rounding a number of grains gives less than twice as many and two. -/
theorem roundGrains_le (num den : Nat) : roundGrains num den ≤ 2 * (num / den) + 1 := by
  have hnearest := nearest_le num (den * 2 ^ spacing (num / den))
  rw [← Nat.div_div_eq_div_mul] at hnearest
  calc roundGrains num den
      ≤ (num / den / 2 ^ spacing (num / den) + 1) * 2 ^ spacing (num / den) :=
          Nat.mul_le_mul_right _ hnearest
    _ = num / den / 2 ^ spacing (num / den) * 2 ^ spacing (num / den) + 2 ^ spacing (num / den) :=
        Nat.succ_mul ..
    _ ≤ num / den + (num / den + 1) :=
        Nat.add_le_add (Nat.div_mul_le_self ..) (two_pow_spacing_le _)
    _ = 2 * (num / den) + 1 := by omega

theorem nearest_ge (num den : Nat) : num / den ≤ nearest num den := by
  unfold nearest
  simp only
  split
  next => omega
  next => split <;> omega

/-- Rounding does not fall below the power of two that a number of grains has reached. -/
theorem two_pow_log2_le_roundGrains (num den : Nat) (h : num / den ≠ 0) :
    2 ^ (num / den).log2 ≤ roundGrains num den := by
  have hnearest := nearest_ge num (den * 2 ^ spacing (num / den))
  rw [← Nat.div_div_eq_div_mul] at hnearest
  have hpower : 2 ^ (num / den).log2 =
      2 ^ ((num / den).log2 - spacing (num / den)) * 2 ^ spacing (num / den) := by
    have hspacing : spacing (num / den) ≤ (num / den).log2 := Nat.sub_le _ _
    rw [← Nat.pow_add, Nat.sub_add_cancel hspacing]
  have hquotient : 2 ^ ((num / den).log2 - spacing (num / den)) ≤
      num / den / 2 ^ spacing (num / den) := by
    rw [Nat.le_div_iff_mul_le (Nat.two_pow_pos _), ← hpower]
    exact Nat.log2_self_le h
  calc 2 ^ (num / den).log2
      = 2 ^ ((num / den).log2 - spacing (num / den)) * 2 ^ spacing (num / den) := hpower
    _ ≤ roundGrains num den := Nat.mul_le_mul_right _ (Nat.le_trans hquotient hnearest)

theorem one_pos : 0 < one := by decide +kernel

/-- An integer that fits 64 bits is rounded to less than `2 ^ 65`. -/
theorem roundRatio_le {n : Nat} (h : n < 2 ^ 64) : roundRatio n 1 ≤ 2 ^ 65 * one := by
  have hone := one_pos
  have hn : (n + 1) * one ≤ 2 ^ 64 * one := Nat.mul_le_mul_right one h
  have hround := roundGrains_le (n * one) 1
  rw [Nat.div_one] at hround
  rw [Nat.succ_mul] at hn
  show roundGrains (n * one) 1 ≤ 2 ^ 65 * one
  omega

theorem isFinite_ofInt {n : Int} (h : n.natAbs < 2 ^ 64) : (ofInt n).isFinite :=
  isFinite_ofGrains _ (Nat.lt_of_le_of_lt (roundRatio_le h) (by decide +kernel))

/-- Every 64-bit integer is a finite double. -/
theorem isFinite_ofInt64 (n : Int64) : (ofInt n.toInt).isFinite := by
  have hle := n.le_toInt
  have hlt := n.toInt_lt
  exact isFinite_ofInt (by omega)

theorem isFinite_zero : zero.isFinite := by decide

end Binary64

/-- Every text counts as a finite double, whatever its numeral is. -/
theorem Decimal.isFinite_textToDouble (t : Text) : (textToDouble t).isFinite := by
  unfold textToDouble
  split
  next n _ => exact Binary64.isFinite_ofInt64 n
  next x _ =>
    split
    next hx => exact hx
    next => exact Binary64.isFinite_zero
  next => exact Binary64.isFinite_zero

/-- As a number, a value is finite unless it is a double that is not. -/
theorem Value.isFinite_toDouble {v : Value} (h : ∀ x, v = .float x → x.isFinite) :
    v.toDouble.isFinite := by
  cases v
  case float x => exact h x rfl
  case bool b => cases b <;> exact Binary64.isFinite_ofInt (by decide)
  case int n => exact Binary64.isFinite_ofInt64 n
  case str s => exact Decimal.isFinite_textToDouble s
  case host o =>
    rw [toDouble]
    cases o.numericText with
    | none => exact Binary64.isFinite_zero
    | some t => exact Decimal.isFinite_textToDouble t
  all_goals exact Binary64.isFinite_zero

end SqlTemplate
