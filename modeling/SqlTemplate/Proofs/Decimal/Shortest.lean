import Mathlib.Data.List.TakeWhile
import SqlTemplate.Decimal.Notation

/-! The digits that number literals are made of. The shortest decimal of a count of grains
rounds back to it, so that of a positive count has a digit other than zero, and a digit
is left when the zeros at the end are dropped. -/

namespace SqlTemplate.Decimal

open Nat (pow)
open Binary64 (roundDecimal roundRatio roundGrains nearest)

/-! ### Reading back -/

theorem roundDecimal_of_onGrid {n d : Nat} {place : Int} (h : onGrid n place = some d) :
    roundDecimal d place = n := by
  unfold onGrid at h
  simp only at h
  split at h
  next hlow =>
    rw [Bool.and_eq_true, decide_eq_true_eq] at hlow
    cases h
    exact hlow.1
  next =>
    split at h
    next hhigh =>
      cases h
      exact of_decide_eq_true hhigh
    next => cases h

theorem roundDecimal_of_firstHit? {n : Nat} {hit : Nat × Int} (h : firstHit? n = some hit) :
    roundDecimal hit.1 hit.2 = n := by
  obtain ⟨i, -, hi⟩ := List.exists_of_findSome?_eq_some h
  obtain ⟨d, hd, rfl⟩ := Option.map_eq_some_iff.1 hi
  exact roundDecimal_of_onGrid hd

theorem roundGrains_zero (den : Nat) : roundGrains 0 den = 0 := by
  simp [roundGrains, nearest]

theorem roundDecimal_zero (place : Int) : roundDecimal 0 place = 0 := by
  simp only [roundDecimal, roundRatio, Nat.zero_mul]
  exact roundGrains_zero _

theorem expansion_ne_zero {n : Nat} (h : n ≠ 0) : (expansion n).1 ≠ 0 := by
  -- The exponent gets a name so that the power is not computed.
  obtain ⟨k, hk⟩ : ∃ k, k = 1074 := ⟨_, rfl⟩
  have hpow : pow 5 k ≠ 0 := Nat.ne_of_gt (Nat.pow_pos (by decide))
  rw [expansion, ← hk]
  exact Nat.mul_ne_zero h hpow

theorem shortest_ne_zero {n : Nat} (h : n ≠ 0) : (shortest n).1 ≠ 0 := by
  intro hzero
  cases hhit : firstHit? n with
  | some hit =>
    have hback := roundDecimal_of_firstHit? hhit
    rw [shortest, hhit, Option.getD_some] at hzero
    rw [hzero, roundDecimal_zero] at hback
    exact h hback.symm
  | none =>
    rw [shortest, hhit] at hzero
    exact expansion_ne_zero h hzero

/-! ### Digits that are left -/

theorem natText_ne_nil (n : Nat) : natText n ≠ [] := Nat.toDigits_ne_nil

/-- A number with no digit but zeros is zero. -/
theorem eq_zero_of_natText {n : Nat} (h : ∀ c ∈ natText n, c = '0') : n = 0 := by
  have hzeros : natText n = List.replicate (natText n).length '0' := List.eq_replicate_of_mem h
  calc n = Nat.ofDigitChars 10 (natText n) 0 := Nat.ofDigitChars_ten_toDigits.symm
    _ = Nat.ofDigitChars 10 (List.replicate (natText n).length '0') 0 := by rw [← hzeros]
    _ = 0 := by simp [Nat.ofDigitChars_replicate_zero]

theorem withoutZeros_ne_nil {n : Nat} (h : n ≠ 0) (place : Int) :
    (withoutZeros (natText n) place).1 ≠ [] := by
  intro hnil
  have hreverse : (natText n).reverse.dropWhile (· = '0') = [] := List.reverse_eq_nil_iff.1 hnil
  have hall : ∀ c ∈ natText n, c = '0' := by
    intro c hc
    simpa using List.dropWhile_eq_nil_iff.1 hreverse c (List.mem_reverse.2 hc)
  exact h (eq_zero_of_natText hall)

end SqlTemplate.Decimal
