import Mathlib.Data.Rat.Floor
import SqlTemplate.Proofs.Binary64.Nearest

/-! Doubles as 64-bit integers. What the conversions make of a double is said of the number that
it stands for: its whole part toward zero, if that is in range. That a comparison of the double
itself with the ends of the range decides this rests on the doubles around the lower end,
which have no fraction any more. -/

namespace SqlTemplate.Binary64

/-- The whole part of a number, toward zero. -/
def towardZero (q : ℚ) : ℤ := if q < 0 then ⌈q⌉ else ⌊q⌋

/-- The range of 64-bit integers. -/
def InRange (n : ℤ) : Prop := -2 ^ 63 ≤ n ∧ n ≤ 2 ^ 63 - 1

instance (n : ℤ) : Decidable (InRange n) := inferInstanceAs (Decidable (_ ∧ _))

/-- An integer drawn to the nearer end of the range if it is out of it. -/
def clamped (n : ℤ) : ℤ := max (-2 ^ 63) (min n (2 ^ 63 - 1))

variable {x y : Binary64} {q : ℚ} {n : ℤ}

theorem clamped_of_inRange (h : InRange n) : clamped n = n := by
  unfold InRange at h
  unfold clamped
  omega

theorem clamped_of_ge (h : 2 ^ 63 ≤ n) : clamped n = 2 ^ 63 - 1 := by
  unfold clamped
  omega

theorem clamped_of_le (h : n ≤ -2 ^ 63) : clamped n = -2 ^ 63 := by
  unfold clamped
  omega

/-! ### Whole parts -/

theorem le_towardZero (h : (n : ℚ) ≤ q) (hn : 0 ≤ n) : n ≤ towardZero q := by
  have hq : 0 ≤ q := le_trans (by exact_mod_cast hn) h
  rw [towardZero, if_neg (not_lt.2 hq)]
  exact Int.le_floor.2 h

theorem towardZero_le (h : q ≤ n) (hn : n < 0) : towardZero q ≤ n := by
  have hq : q < 0 := lt_of_le_of_lt h (by exact_mod_cast hn)
  rw [towardZero, if_pos hq]
  exact Int.ceil_le.2 h

theorem towardZero_signed (b : Bool) (n m : ℕ) :
    towardZero (signed b ((n : ℚ) / m)) = if b then -((n / m : ℕ) : ℤ) else (n / m : ℕ) := by
  have hfloor : ⌊(n : ℚ) / m⌋ = ((n / m : ℕ) : ℤ) := Rat.floor_natCast_div_natCast n m
  have hquotient : (0 : ℚ) ≤ n / m := div_nonneg (Nat.cast_nonneg n) (Nat.cast_nonneg m)
  cases b with
  | false => simp [towardZero, signed, hfloor, not_lt.2 hquotient]
  | true =>
    simp only [towardZero, signed, if_true, neg_one_mul, Left.neg_neg_iff]
    split
    next => rw [Int.ceil_neg, hfloor]
    next hzero =>
      have hzero : (n : ℚ) / m = 0 := le_antisymm (not_lt.1 hzero) hquotient
      rw [hzero, Int.floor_zero] at hfloor
      rw [hzero, ← hfloor, neg_zero, Int.floor_zero, neg_zero]

theorem truncate_eq_signed (x : Binary64) :
    x.truncate = if x.negative then -((x.grains / one : ℕ) : ℤ) else (x.grains / one : ℕ) := rfl

/-- What is left of the grains of a double is the whole part of its number. -/
theorem truncate_eq (x : Binary64) : x.truncate = towardZero x.value := by
  rw [value, towardZero_signed, truncate_eq_signed]

/-! ### The ends of the range -/

theorem value_eq_signedGrains (x : Binary64) : x.value = x.signedGrains / one := by
  rw [value, signed, signedGrains]
  split <;> push_cast <;> ring

theorem ofInt_limit : (ofInt limit).isNaN = false ∧ (ofInt limit).signedGrains = 2 ^ 63 * one := by
  decide +kernel

theorem ofInt_neg_limit :
    (ofInt (-limit)).isNaN = false ∧ (ofInt (-limit)).signedGrains = -(2 ^ 63 * one) := by
  decide +kernel

theorem value_limit : (ofInt limit).value = 2 ^ 63 := by
  rw [value_eq_signedGrains, ofInt_limit.2, Int.cast_mul, Int.cast_natCast,
    mul_div_cancel_right₀ _ cast_one_pos.ne']
  norm_cast

theorem value_neg_limit : (ofInt (-limit)).value = -2 ^ 63 := by
  rw [value_eq_signedGrains, ofInt_neg_limit.2, Int.cast_neg, Int.cast_mul,
    Int.cast_natCast, neg_div, mul_div_cancel_right₀ _ cast_one_pos.ne']
  norm_cast

/-- From `2 ^ 53` on, doubles have no fraction. -/
theorem one_dvd_grains (h : 2 ^ 53 * one ≤ x.grains) : one ∣ x.grains := by
  obtain ⟨a, ha⟩ : ∃ a, a = 1074 := ⟨_, rfl⟩
  obtain ⟨k, s, hsteps⟩ := exists_steps_grains x
  rw [hsteps.eq, one_eq ha] at h ⊢
  have hs : a ≤ s := by
    by_contra hlt
    have hpow : 2 ^ s ≤ 2 ^ a := Nat.pow_le_pow_right (by decide) (by omega)
    have hbound : k * 2 ^ s < 2 ^ 53 * 2 ^ a :=
      Nat.mul_lt_mul_of_lt_of_le hsteps.lt hpow (Nat.two_pow_pos a)
    omega
  exact (pow_dvd_pow 2 hs).mul_left k

theorem limit_le_iff (hx : x.isNaN = false) : (ofInt limit).le x ↔ 2 ^ 63 ≤ x.truncate := by
  have hpos := one_pos
  have hdiv : 2 ^ 63 ≤ x.grains / one ↔ 2 ^ 63 * one ≤ x.grains := Nat.le_div_iff_mul_le hpos
  rw [le, ofInt_limit.1, ofInt_limit.2, hx, signedGrains, truncate_eq_signed]
  simp only [Bool.not_false, Bool.true_and, decide_eq_true_eq]
  generalize x.grains / one = d at hdiv
  generalize one = o at *
  split <;> omega

/-- Below the range, too, the double decides: the next one below the lower end is a whole number. -/
theorem lt_neg_limit_iff (hx : x.isNaN = false) : x.lt (ofInt (-limit)) ↔ x.truncate < -2 ^ 63 := by
  have hpos := one_pos
  have hdiv : 2 ^ 63 < x.grains / one ↔ 2 ^ 63 * one < x.grains := by
    constructor
    · intro h
      exact lt_of_lt_of_le (Nat.mul_lt_mul_of_pos_right h hpos) (Nat.div_mul_le_self _ _)
    · intro h
      obtain ⟨m, hm⟩ := one_dvd_grains (x := x) (by omega)
      rw [hm, Nat.mul_comm, Nat.mul_lt_mul_left hpos] at h
      rwa [hm, Nat.mul_div_cancel_left _ hpos]
  rw [lt, ofInt_neg_limit.1, ofInt_neg_limit.2, hx, signedGrains, truncate_eq_signed]
  simp only [Bool.not_false, Bool.true_and, decide_eq_true_eq]
  generalize x.grains / one = d at hdiv
  generalize one = o at *
  split <;> omega

/-! ### Conversions -/

theorem toInt_saturate (hx : x.isNaN = false) : x.saturate.toInt = clamped x.truncate := by
  have hmin : Int64.minValue.toInt = -2 ^ 63 := by decide
  have hmax : Int64.maxValue.toInt = 2 ^ 63 - 1 := by decide
  rw [saturate, hx, if_neg Bool.false_ne_true, hmin, hmax]
  split
  next hlow => rw [hmin, clamped_of_le hlow.le]
  next hlow =>
    split
    next hhigh => rw [hmax, clamped_of_ge (by omega)]
    next hhigh =>
      rw [clamped_of_inRange ⟨by omega, by omega⟩]
      exact Int64.toInt_ofInt_of_le (by omega) (by omega)

/-- The double as an integer that counts only if it fits. -/
theorem toInt_toInt64 (x : Binary64) :
    x.toInt64.toInt = if x.isFinite ∧
    InRange (towardZero x.value) then towardZero x.value else 0 := by
  rw [toInt64, ← truncate_eq]
  by_cases hx : x.isFinite
  case neg => simp [hx]
  have hnan := not_isNaN_of_isFinite hx
  have hhigh := limit_le_iff hnan
  have hlow := lt_neg_limit_iff hnan
  by_cases hin : InRange x.truncate
  · have hle : (ofInt limit).le x = false := by
      rw [← Bool.not_eq_true, hhigh]
      exact not_le.2 (Int.lt_of_le_sub_one hin.2)
    have hlt : x.lt (ofInt (-limit)) = false := by
      rw [← Bool.not_eq_true, hlow]
      exact not_lt.2 hin.1
    simp [hx, hle, hlt, hin, toInt_saturate hnan, clamped_of_inRange hin]
  · have hout : (ofInt limit).le x = true ∨ x.lt (ofInt (-limit)) = true := by
      rw [hhigh, hlow]
      unfold InRange at hin
      omega
    rcases hout with h | h <;> simp [hx, h, hin]

/-- The double as an integer that is drawn to the range. -/
theorem toInt_clampToInt64 (x : Binary64) :
    x.clampToInt64.toInt = if x.isFinite then clamped (towardZero x.value) else 0 := by
  rw [clampToInt64, ← truncate_eq]
  split
  next hx => exact toInt_saturate (not_isNaN_of_isFinite hx)
  next => rfl

/-- Out of the range, the sign tells the end. -/
theorem clamped_towardZero_of_not_inRange (h : ¬InRange (towardZero x.value)) :
    clamped (towardZero x.value) = if x.negative then -2 ^ 63 else 2 ^ 63 - 1 := by
  rw [← truncate_eq, truncate_eq_signed] at h ⊢
  unfold InRange at h
  generalize x.grains / one = d at h ⊢
  split at h
  next hneg =>
    rw [if_pos hneg, if_pos hneg]
    exact clamped_of_le (by omega)
  next hpos =>
    rw [if_neg hpos, if_neg hpos]
    exact clamped_of_ge (by omega)

/-! ### Rounding past an end -/

/-- Rounding does not carry a number past a double. -/
theorem Rounds.le_value {b : Bool} (h : x.Rounds b q) (hq : |q| < threshold) (hy : y.isFinite)
    (hle : y.value ≤ q) : y.value ≤ x.value := by
  have hnear := h.nearest hq y hy
  rw [abs_of_nonneg (sub_nonneg.2 hle)] at hnear
  linarith [le_abs_self (q - x.value)]

theorem Rounds.value_le {b : Bool} (h : x.Rounds b q) (hq : |q| < threshold) (hy : y.isFinite)
    (hle : q ≤ y.value) : x.value ≤ y.value := by
  have hnear := h.nearest hq y hy
  rw [abs_of_nonpos (sub_nonpos.2 hle)] at hnear
  linarith [neg_abs_le (q - x.value)]

theorem isFinite_limit : (ofInt limit).isFinite := isFinite_ofInt (by decide)

theorem isFinite_neg_limit : (ofInt (-limit)).isFinite := isFinite_ofInt (by decide)

theorem two_pow_lt_threshold {k : ℕ} (hk : k ≤ 970) : (2 : ℚ) ^ k < threshold := by
  obtain ⟨a, ha⟩ : ∃ a, a = 970 := ⟨_, rfl⟩
  have hpow : (2 : ℚ) ^ k ≤ 2 ^ a := pow_le_pow_right₀ one_le_two (by omega)
  have hpos : (0 : ℚ) < 2 ^ a := pow_pos two_pos a
  rw [threshold_eq ha, pow_add]
  linarith

/-- An integer is drawn to the range as its rounding is. What is rounded is out of range already,
and its rounding does not come back past the end. -/
theorem Rounds.toInt_clampToInt64 {b : Bool} (h : x.Rounds b n) (hout : ¬InRange n) :
    x.clampToInt64.toInt = if |(n : ℚ)| < threshold then clamped n else 0 := by
  rw [Binary64.toInt_clampToInt64]
  by_cases hlt : |(n : ℚ)| < threshold
  case pos =>
    rw [if_pos (h.finite hlt), if_pos hlt]
    rcases lt_or_ge n (-2 ^ 63) with hlow | hlow
    · have hle : x.value ≤ (-2 ^ 63 : ℤ) := by
        have hvalue :=
          h.value_le hlt isFinite_neg_limit (by rw [value_neg_limit]; exact_mod_cast hlow.le)
        rw [value_neg_limit] at hvalue
        exact_mod_cast hvalue
      rw [clamped_of_le (towardZero_le hle (by decide)), clamped_of_le hlow.le]
    · have hhigh : 2 ^ 63 ≤ n := by
        unfold InRange at hout
        omega
      have hle : (2 ^ 63 : ℤ) ≤ x.value := by
        have hvalue := h.le_value hlt isFinite_limit (by rw [value_limit]; exact_mod_cast hhigh)
        rw [value_limit] at hvalue
        exact_mod_cast hvalue
      rw [clamped_of_ge (le_towardZero hle (by decide)), clamped_of_ge hhigh]
  case neg =>
    have hinfinite : ¬x.isFinite := by
      rw [isFinite, h.infinite (not_lt.1 hlt)]
      decide
    rw [if_neg hinfinite, if_neg hlt]

theorem abs_lt_threshold_of_inRange (h : InRange n) : |(n : ℚ)| < threshold := by
  have habs : |n| ≤ 2 ^ 63 := abs_le.2 ⟨h.1, h.2.trans (by decide)⟩
  exact lt_of_le_of_lt (by exact_mod_cast habs) (two_pow_lt_threshold (k := 63) (by decide))

end SqlTemplate.Binary64
