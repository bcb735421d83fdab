import SqlTemplate.Json.Number
import SqlTemplate.Proofs.Binary64.Finite
import SqlTemplate.Proofs.Json.Bounded

/-! The numbers that JSON numerals stand for have finite doubles. The significand fits 64 bits, so
it has grains to spare; dividing it by powers of ten leaves it below what it was but for the last
rounding, and a product that overflows is no number. -/

namespace SqlTemplate.Json

open Binary64 (one overflow roundGrains roundRatio)

/-! ### Significands -/

theorem gather_lt {n : Nat} (h : n < 2 ^ 64) (digits : Text) : (gather n digits).1 < 2 ^ 64 := by
  induction digits generalizing n with
  | nil => exact h
  | cons c r ih =>
    simp only [gather]
    split
    next hnext => exact ih hnext
    next => exact h

/-! ### Powers of ten -/

theorem two_pow_le_powerOfTen {n k : Nat} (h : 2 ^ k ≤ 10 ^ n * one) : 2 ^ k ≤ powerOfTen n := by
  have hne : 10 ^ n * one ≠ 0 := Nat.ne_of_gt (Nat.lt_of_lt_of_le (Nat.two_pow_pos k) h)
  have hround := Binary64.two_pow_log2_le_roundGrains (10 ^ n * one) 1 (by rwa [Nat.div_one])
  rw [Nat.div_one] at hround
  exact Nat.le_trans (Nat.pow_le_pow_right (by decide) ((Nat.le_log2 hne).2 h)) hround

theorem one_le_powerOfTen (n : Nat) : one ≤ powerOfTen n := by
  -- The exponent gets a name so that the power is not computed.
  obtain ⟨k, hk⟩ : ∃ k, k = 1074 := ⟨_, rfl⟩
  have hone : one = 2 ^ k := by
    rw [hk]
    decide +kernel
  rw [hone]
  refine two_pow_le_powerOfTen ?_
  rw [hone]
  exact Nat.le_mul_of_pos_left _ (Nat.pow_pos (by decide))

/-- Division by a power of ten at most rounds up. -/
theorem divGrains_le (grains n : Nat) :
    Binary64.divGrains grains (powerOfTen n) ≤ 2 * grains + 1 := by
  have hquotient : grains * one / powerOfTen n ≤ grains := by
    calc grains * one / powerOfTen n ≤ grains * one / one :=
          Nat.div_le_div_left (one_le_powerOfTen n) Binary64.one_pos
      _ = grains := Nat.mul_div_cancel _ Binary64.one_pos
  have hround := Binary64.roundGrains_le (grains * one) (powerOfTen n)
  show roundGrains (grains * one) (powerOfTen n) ≤ 2 * grains + 1
  omega

/-- The largest power divides so much away that no rounding brings it back. -/
theorem divGrains_le_self {grains : Nat} (h : grains ≠ 0) :
    Binary64.divGrains grains (powerOfTen 308) ≤ grains := by
  have hpower : 4 * one ≤ powerOfTen 308 := by decide +kernel
  have hquotient : grains * one / powerOfTen 308 ≤ grains / 4 := by
    calc grains * one / powerOfTen 308 ≤ grains * one / (4 * one) :=
          Nat.div_le_div_left hpower (Nat.mul_pos (by decide) Binary64.one_pos)
      _ = grains / 4 := Nat.mul_div_mul_right _ _ Binary64.one_pos
  have hround := Binary64.roundGrains_le (grains * one) (powerOfTen 308)
  show roundGrains (grains * one) (powerOfTen 308) ≤ grains
  omega

/-! ### Scaling -/

theorem scaleDown_le (grains n : Nat) : scaleDown grains n ≤ 2 * grains + 1 := by
  fun_induction scaleDown grains n with
  | case1 grains n _ => exact divGrains_le grains n
  | case2 => omega
  | case3 grains n _ hne ih =>
    have := divGrains_le_self hne
    omega

theorem scaleUp?_lt {grains n scaled : Nat} (h : scaleUp? grains n = some scaled) :
    scaled < overflow := by
  unfold scaleUp? at h
  split at h
  next =>
    obtain rfl := Option.some.inj h
    decide +kernel
  next =>
    split at h
    next =>
      simp only [Option.ite_none_right_eq_some, Option.some.injEq] at h
      obtain ⟨hlt, rfl⟩ := h
      exact hlt
    next => cases h

/-- What is left of a significand after scaling is no overflow. -/
theorem scale?_lt {significand scaled : Nat} {place : Int} (hs : significand < 2 ^ 64)
    (h : scale? (roundRatio significand 1) place = some scaled) : scaled < overflow := by
  cases place with
  | ofNat n => exact scaleUp?_lt h
  | negSucc n =>
    obtain rfl := Option.some.inj h
    have hroom : 2 * (2 ^ 65 * one) + 1 < overflow := by decide +kernel
    have hround := Binary64.roundRatio_le hs
    have hscale := scaleDown_le (roundRatio significand 1) (n + 1)
    omega

/-! ### Numbers -/

theorem bounded_integer (negative : Bool) {n : Nat} (hn : n < 2 ^ 64) :
    (integer negative n).Bounded := by
  refine ⟨_, rfl, Binary64.isFinite_ofGrains _ ?_⟩
  exact Nat.lt_of_le_of_lt (Binary64.roundRatio_le hn) (by decide +kernel)

theorem bounded_ofGrains (negative : Bool) {grains : Nat} (h : grains < overflow) :
    Number.Bounded ⟨none, some (Binary64.ofGrains negative grains)⟩ :=
  ⟨_, rfl, Binary64.isFinite_ofGrains _ h⟩

/-- A numeral that overflows a double is no number. -/
theorem bounded_number? {n : Decimal.Numeral} {number : Number} (h : number? n = some number) :
    number.Bounded := by
  have hwhole : (gather 0 n.whole).1 < 2 ^ 64 := gather_lt (by decide) _
  have hsignificand := gather_lt hwhole (n.fraction.getD [])
  have hfloat {scaled : Option Nat} (hscaled : ∀ g, scaled = some g → g < overflow)
      (h : (scaled.map fun g => ⟨none, some (Binary64.ofGrains n.negative g)⟩) = some number) :
      number.Bounded := by
    obtain ⟨g, hg, rfl⟩ := Option.map_eq_some_iff.1 h
    exact bounded_ofGrains _ (hscaled g hg)
  unfold number? at h
  simp only at h
  split at h
  next =>
    cases h
    exact bounded_integer _ hwhole
  next =>
    split at h
    next => exact hfloat (fun g hg => scale?_lt hsignificand hg) h
    next =>
      split at h
      next => exact hfloat (fun g hg => scale?_lt hsignificand hg) h
      next =>
        split at h
        next =>
          cases h
          exact bounded_ofGrains _ (by decide +kernel)
        next => cases h

end SqlTemplate.Json
