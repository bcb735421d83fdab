import Mathlib.Algebra.Order.Field.Basic
import Mathlib.Data.Nat.Cast.Order.Field
import Mathlib.Data.Rat.Cast.Order
import Mathlib.Tactic.FieldSimp
import Mathlib.Tactic.Linarith
import Mathlib.Tactic.Positivity
import Mathlib.Tactic.Ring
import SqlTemplate.Proofs.Binary64.Finite

/-! The numbers that doubles stand for, and rounding to the nearest of them. A count of grains is
a double's if it is a significand of 53 bits times a power of two; in this form magnitude
and grains determine each other. Rounding a quotient of grains comes as near to it as
doubles can, and takes the even significand where two are equally near. -/

namespace SqlTemplate.Binary64

/-- The number with a sign and a nonnegative amount. -/
def signed (negative : Bool) (amount : ℚ) : ℚ :=
  (if negative then -1 else 1) * amount

/-- The number that a finite double stands for. -/
def value (x : Binary64) : ℚ := signed x.negative (x.grains / one)

/-- Half a step above the largest finite double: from here on numbers round to the infinite ones. -/
def threshold : ℚ := 2 ^ 1024 - 2 ^ 970

/-- A double is the rounding of a number to nearest, ties to even, with the sign given apart, for
zeros have one. -/
structure Rounds (negative : Bool) (q : ℚ) (x : Binary64) : Prop where
  sign : x.negative = negative
  infinite : threshold ≤ |q| → x.magnitude = infinity
  finite : |q| < threshold → x.isFinite
  nearest : |q| < threshold → ∀ y : Binary64, y.isFinite → |q - x.value| ≤ |q - y.value|
  even : |q| < threshold → ∀ y : Binary64, y.isFinite → |q - y.value| = |q - x.value| →
    y.value = x.value ∨ x.magnitude % 2 = 0

/-! ### Significands -/

/-- A count of grains in steps of `2 ^ s`: the significand `k` has 53 bits, the first of them set
unless the steps are single grains. -/
structure Steps (n k s : Nat) : Prop where
  eq : n = k * 2 ^ s
  lt : k < 2 ^ 53
  normal : s = 0 ∨ 2 ^ 52 ≤ k

variable {n k s num den : Nat}

namespace Steps

theorem zero : Steps 0 0 0 := ⟨rfl, by decide, .inl rfl⟩

theorem spacing_eq (h : Steps n k s) : spacing n = s := by
  rw [spacing, h.eq]
  rcases h.normal with rfl | hk
  · rw [Nat.pow_zero, Nat.mul_one]
    by_cases hzero : k = 0
    · simp [hzero]
    · have hlog := (Nat.log2_lt hzero).2 h.lt
      omega
  · have hne : k * 2 ^ s ≠ 0 := Nat.mul_ne_zero (by omega) (Nat.two_pow_pos s).ne'
    have hlog : (k * 2 ^ s).log2 = 52 + s := by
      rw [Nat.log2_eq_iff hne, Nat.pow_add, Nat.add_right_comm, Nat.pow_add]
      exact ⟨Nat.mul_le_mul_right _ hk, Nat.mul_lt_mul_of_pos_right h.lt (Nat.two_pow_pos s)⟩
    omega

theorem magnitudeOf_eq (h : Steps n k s) (hn : n < overflow) : magnitudeOf n = s * 2 ^ 52 + k := by
  have hdiv : n / 2 ^ s = k := by rw [h.eq, Nat.mul_div_cancel _ (Nat.two_pow_pos s)]
  simp only [magnitudeOf, if_pos hn, h.spacing_eq, Nat.pow_eq, hdiv]

theorem grainsOf_eq (h : Steps n k s) : grainsOf (s * 2 ^ 52 + k) = n := by
  have hlt := h.lt
  simp only [grainsOf, Nat.pow_eq]
  rw [h.eq]
  split
  next hm =>
    have hs : s = 0 := h.normal.resolve_right (by omega)
    subst hs
    omega
  next hm =>
    have hk : 2 ^ 52 ≤ k := by rcases h.normal with rfl | hk <;> omega
    have hmod : 2 ^ 52 + (s * 2 ^ 52 + k) % 2 ^ 52 = k := by omega
    have hdiv : (s * 2 ^ 52 + k) / 2 ^ 52 - 1 = s := by omega
    rw [hmod, hdiv]

end Steps

theorem exists_steps_grainsOf (m : Nat) : ∃ k s, Steps (grainsOf m) k s ∧ m = s * 2 ^ 52 + k := by
  by_cases hm : m < 2 ^ 52
  · refine ⟨m, 0, ⟨?_, by omega, .inl rfl⟩, by omega⟩
    simp only [grainsOf, Nat.pow_eq, if_pos hm, Nat.pow_zero, Nat.mul_one]
  · refine ⟨2 ^ 52 + m % 2 ^ 52, m / 2 ^ 52 - 1, ⟨?_, by omega, .inr (by omega)⟩, by omega⟩
    simp only [grainsOf, Nat.pow_eq, if_neg hm]

/-! ### Doubles and their grains -/

variable {x : Binary64}

theorem exists_steps_grains (x : Binary64) : ∃ k s, Steps x.grains k s := by
  obtain ⟨k, s, hsteps, -⟩ := exists_steps_grainsOf x.magnitude
  exact ⟨k, s, hsteps⟩

theorem grains_lt_overflow (hx : x.isFinite) : x.grains < overflow := by
  have hm : x.magnitude < infinity := of_decide_eq_true hx
  simp only [infinity, Nat.pow_eq] at hm
  obtain ⟨k, s, hsteps, heq⟩ := exists_steps_grainsOf x.magnitude
  have hlt := hsteps.lt
  have hs : s ≤ 2045 := by rcases hsteps.normal with rfl | hk <;> omega
  -- The exponents get names so that the powers are not computed.
  obtain ⟨a, ha⟩ : ∃ a, a = 2045 := ⟨_, rfl⟩
  rw [grains, hsteps.eq, overflow_eq (k := 53 + a) (by omega), Nat.pow_add]
  calc k * 2 ^ s < 2 ^ 53 * 2 ^ s := Nat.mul_lt_mul_of_pos_right hlt (Nat.two_pow_pos s)
    _ ≤ 2 ^ 53 * 2 ^ a := Nat.mul_le_mul_left _ (Nat.pow_le_pow_right (by omega) (by omega))

theorem magnitudeOf_grains (hx : x.isFinite) : magnitudeOf x.grains = x.magnitude := by
  obtain ⟨k, s, hsteps, heq⟩ := exists_steps_grainsOf x.magnitude
  rw [heq]
  exact hsteps.magnitudeOf_eq (grains_lt_overflow hx)

/-- A finite double is the one with its sign and its grains. -/
theorem ofGrains_grains (hx : x.isFinite) : ofGrains x.negative x.grains = x := by
  have hbits : (if x.negative then Nat.pow 2 63 else 0) + x.magnitude = x.bits.toNat := by
    have hlt := x.bits.toNat_lt
    simp only [negative, magnitude, Nat.pow_eq, decide_eq_true_eq]
    split <;> omega
  rw [ofGrains, magnitudeOf_grains hx, hbits, UInt64.ofNat_toNat]

theorem negative_ofGrains (b : Bool) (n : Nat) : (ofGrains b n).negative = b := by
  have hle := magnitudeOf_le_infinity n
  simp only [infinity, Nat.pow_eq] at hle
  simp only [negative, ofGrains, UInt64.toNat_ofNat', Nat.pow_eq]
  cases b <;> simp <;> omega

/-- A count of grains that is a double's is kept by the double. -/
theorem Steps.grains_ofGrains (h : Steps n k s) (hn : n < overflow) (b : Bool) :
    (ofGrains b n).grains = n := by
  rw [grains, magnitude_ofGrains, h.magnitudeOf_eq hn, h.grainsOf_eq]

/-! ### Whole numbers -/

/-- The nearest whole number is at most one half away, and even if it is that far away. -/
theorem nearest_error (num : Nat) (hden : 0 < den) :
    |(num : ℚ) / den - nearest num den| ≤ 1 / 2 ∧
      (|(num : ℚ) / den - nearest num den| = 1 / 2 → nearest num den % 2 = 0) := by
  have hd : (0 : ℚ) < den := by exact_mod_cast hden
  have hnum : (num : ℚ) / den = (num / den : Nat) + (num % den : Nat) / den := by
    have h := Nat.div_add_mod num den
    field_simp
    exact_mod_cast h.symm
  have hr : (num % den : Nat) < (den : ℚ) := by exact_mod_cast Nat.mod_lt num hden
  have hr0 : (0 : ℚ) ≤ (num % den : Nat) / den := by positivity
  rw [hnum]
  unfold nearest
  simp only
  split
  next hlow =>
    have hlow : (num % den : Nat) / (den : ℚ) < 1 / 2 := by
      rw [div_lt_div_iff₀ hd two_pos]
      exact_mod_cast (by omega : num % den * 2 < 1 * den)
    rw [add_sub_cancel_left, abs_of_nonneg hr0]
    exact ⟨hlow.le, fun h => absurd h hlow.ne⟩
  next hlow =>
    split
    next hhigh =>
      have hhigh : 1 / 2 < (num % den : Nat) / (den : ℚ) := by
        rw [div_lt_div_iff₀ two_pos hd]
        exact_mod_cast (by omega : 1 * den < num % den * 2)
      have hone : (num % den : Nat) / (den : ℚ) < 1 := (div_lt_one hd).2 hr
      have herror :
          |(↑(num / den) + (num % den : Nat) / (den : ℚ)) - (num / den + 1 : Nat)| < 1 / 2 := by
        rw [abs_lt]
        push_cast
        constructor <;> linarith
      exact ⟨herror.le, fun h => absurd h herror.ne⟩
    next hhigh =>
      have hhalf : (num % den : Nat) / (den : ℚ) = 1 / 2 := by
        rw [div_eq_div_iff hd.ne' two_ne_zero]
        exact_mod_cast (by omega : num % den * 2 = 1 * den)
      rw [hhalf]
      refine ⟨?_, fun _ => by omega⟩
      rcases Nat.mod_two_eq_zero_or_one (num / den) with h | h <;> rw [h, abs_le] <;> push_cast <;>
        constructor <;> linarith

/-- No whole number is nearer than the nearest, and only an even one has another beside it. -/
theorem nearest_spec (num : Nat) (hden : 0 < den) (j : Nat) :
    |(num : ℚ) / den - nearest num den| ≤ |(num : ℚ) / den - j| ∧
      (|(num : ℚ) / den - j| = |(num : ℚ) / den - nearest num den| → j = nearest num den ∨
        nearest num den % 2 = 0) := by
  obtain ⟨herror, heven⟩ := nearest_error num hden
  by_cases hj : j = nearest num den
  · subst hj
    exact ⟨le_rfl, fun _ => .inl rfl⟩
  · have hapart : (1 : ℚ) ≤ |(j : ℚ) - nearest num den| := by
      have hint : (1 : ℤ) ≤ |(j : ℤ) - nearest num den| := Int.one_le_abs (by omega)
      exact_mod_cast hint
    have htriangle : |(j : ℚ) - nearest num den| ≤
        |(num : ℚ) / den - j| + |(num : ℚ) / den - nearest num den| := by
      rw [abs_sub_comm ((num : ℚ) / den) j]
      exact abs_sub_le _ _ _
    exact ⟨by linarith, fun h => .inr (heven (by linarith))⟩

/-! ### Counts of grains -/

/-- The significand that rounding finds. -/
def significand (num den : Nat) : Nat :=
  nearest num (den * 2 ^ spacing (num / den))

theorem roundGrains_eq (num den : Nat) :
    roundGrains num den = significand num den * 2 ^ spacing (num / den) := rfl

theorem significand_le (num den : Nat) : significand num den ≤ 2 ^ 53 := by
  have hlt := div_spacing_lt (num / den)
  have hle := nearest_le num (den * 2 ^ spacing (num / den))
  rw [← Nat.div_div_eq_div_mul] at hle
  rw [significand]
  omega

theorem two_pow_le_of_spacing_ne_zero (h : spacing n ≠ 0) : 2 ^ 52 * 2 ^ spacing n ≤ n := by
  have hlog : n.log2 = 52 + spacing n := by
    unfold spacing at h ⊢
    omega
  have hn : n ≠ 0 := by
    rintro rfl
    simp [spacing] at h
  rw [← Nat.pow_add, ← hlog]
  exact Nat.log2_self_le hn

theorem significand_normal (num den : Nat) :
    spacing (num / den) = 0 ∨ 2 ^ 52 ≤ significand num den := by
  by_cases hs : spacing (num / den) = 0
  · exact .inl hs
  · have hge := nearest_ge num (den * 2 ^ spacing (num / den))
    have hquotient :=
      (Nat.le_div_iff_mul_le (Nat.two_pow_pos _)).2 (two_pow_le_of_spacing_ne_zero hs)
    rw [Nat.div_div_eq_div_mul] at hquotient
    exact .inr (hquotient.trans hge)

/-- Rounded grains are a double's, and the significand found has the parity of the double's: one
that has grown to 54 bits is even, and so is the half of it that is taken. -/
theorem exists_steps_roundGrains (num den : Nat) :
    ∃ k s, Steps (roundGrains num den) k s ∧ (s * 2 ^ 52 + k) % 2 = significand num den % 2 := by
  have hle := significand_le num den
  have hnormal := significand_normal num den
  rw [roundGrains_eq]
  by_cases hlt : significand num den < 2 ^ 53
  · exact ⟨_, _, ⟨rfl, hlt, hnormal⟩, by omega⟩
  · have hk : significand num den = 2 ^ 53 := by omega
    refine ⟨2 ^ 52, spacing (num / den) + 1, ⟨?_, by omega, .inr le_rfl⟩, by omega⟩
    rw [hk, Nat.pow_succ 2 (spacing _), Nat.mul_comm (2 ^ spacing _) 2, ← Nat.mul_assoc]
    rfl

/-- Grains of a double are a whole number of steps of the rounding, unless they are fewer than all
numbers with these steps. -/
theorem Steps.dvd_or_lt (h : Steps n k s) (m : Nat) :
    2 ^ spacing m ∣ n ∨ n < 2 ^ 52 * 2 ^ spacing m ∧ spacing m ≠ 0 := by
  rw [h.eq]
  by_cases hs : spacing m ≤ s
  · exact .inl ((pow_dvd_pow 2 hs).mul_left k)
  · refine .inr ⟨?_, by omega⟩
    calc k * 2 ^ s < 2 ^ 53 * 2 ^ s := Nat.mul_lt_mul_of_pos_right h.lt (Nat.two_pow_pos s)
      _ = 2 ^ 52 * 2 ^ (s + 1) := by rw [Nat.pow_succ 2 s]; omega
      _ ≤ 2 ^ 52 * 2 ^ spacing m :=
          Nat.mul_le_mul_left _ (Nat.pow_le_pow_right (by omega) (by omega))

/-- Among the counts that are whole numbers of steps none is nearer. -/
theorem roundGrains_nearest_steps (num : Nat) (hden : 0 < den) (j : Nat) :
    |(num : ℚ) / den - roundGrains num den| ≤
        |(num : ℚ) / den - (j * 2 ^ spacing (num / den) : Nat)| ∧
      (|(num : ℚ) / den - (j * 2 ^ spacing (num / den) : Nat)| =
        |(num : ℚ) / den - roundGrains num den| →
        j = significand num den ∨ significand num den % 2 = 0) := by
  have hpos := Nat.two_pow_pos (spacing (num / den))
  have hstep : (0 : ℚ) < (2 ^ spacing (num / den) : Nat) := by exact_mod_cast hpos
  have hscale (i : Nat) : |(num : ℚ) / den - (i * 2 ^ spacing (num / den) : Nat)| =
      (2 ^ spacing (num / den) : Nat) * |(num : ℚ) /
      (den * 2 ^ spacing (num / den) : Nat) - i| := by
    have hd : (den : ℚ) ≠ 0 := by exact_mod_cast hden.ne'
    have hsub : (num : ℚ) / den - (i * 2 ^ spacing (num / den) : Nat) =
        (2 ^ spacing (num / den) : Nat) *
        ((num : ℚ) / (den * 2 ^ spacing (num / den) : Nat) - i) := by
      rw [Nat.cast_mul, Nat.cast_mul]
      field_simp
    rw [hsub, abs_mul, abs_of_pos hstep]
  obtain ⟨hnear, heven⟩ := nearest_spec num (Nat.mul_pos hden hpos) j
  rw [roundGrains_eq, hscale, hscale]
  exact ⟨mul_le_mul_of_nonneg_left hnear hstep.le, fun h => heven (mul_left_cancel₀ hstep.ne' h)⟩

/-- No grains of a double are nearer to a quotient than the rounded ones, and if others are as near,
the rounded ones have an even significand. -/
theorem Steps.roundGrains_spec (h : Steps n k s) (num : Nat) (hden : 0 < den) :
    |(num : ℚ) / den - roundGrains num den| ≤ |(num : ℚ) / den - n| ∧
      (|(num : ℚ) / den - n| = |(num : ℚ) / den - roundGrains num den| →
        n = roundGrains num den ∨ significand num den % 2 = 0) := by
  rcases h.dvd_or_lt (num / den) with ⟨j, rfl⟩ | ⟨hlt, hs⟩
  · obtain ⟨hnear, heven⟩ := roundGrains_nearest_steps num hden j
    rw [Nat.mul_comm _ j]
    exact ⟨hnear, fun heq => (heven heq).imp_left fun hj => by rw [hj, roundGrains_eq]⟩
  · -- The power of two that the quotient has reached is nearer than what is below it.
    obtain ⟨hnear, -⟩ := roundGrains_nearest_steps num hden (2 ^ 52)
    have hreached : ((2 ^ 52 * 2 ^ spacing (num / den) : Nat) : ℚ) ≤ num / den :=
      le_trans (by exact_mod_cast two_pow_le_of_spacing_ne_zero hs) Nat.cast_div_le
    have hbelow : (n : ℚ) < (2 ^ 52 * 2 ^ spacing (num / den) : Nat) := by exact_mod_cast hlt
    rw [abs_of_nonneg (sub_nonneg.2 hreached)] at hnear
    have hstrict : |(num : ℚ) / den - roundGrains num den| < |(num : ℚ) / den - n| := by
      rw [abs_of_nonneg (a := (num : ℚ) / den - n) (by linarith)]
      linarith
    exact ⟨hstrict.le, fun heq => absurd heq hstrict.ne'⟩

/-- What is a whole number of grains and a double's is not changed by rounding. -/
theorem Steps.roundGrains_mul (h : Steps n k s) (hden : 0 < den) :
    roundGrains (n * den) den = n := by
  obtain ⟨hnear, -⟩ := h.roundGrains_spec (n * den) hden
  have hd : (den : ℚ) ≠ 0 := by exact_mod_cast hden.ne'
  rw [Nat.cast_mul, mul_div_cancel_right₀ _ hd, sub_self, abs_zero] at hnear
  have heq : (n : ℚ) = roundGrains (n * den) den := sub_eq_zero.1 (abs_nonpos_iff.1 hnear)
  exact_mod_cast heq.symm

theorem roundGrains_eq_zero (hden : 0 < den) (h : (num : ℚ) / den < 1 / 2) :
    roundGrains num den = 0 := by
  have hquotient : (0 : ℚ) ≤ num / den := div_nonneg (Nat.cast_nonneg _) (Nat.cast_nonneg _)
  have hnear := (Steps.zero.roundGrains_spec num hden).1
  rw [Nat.cast_zero, sub_zero, abs_of_nonneg hquotient, abs_le] at hnear
  have hlt : (roundGrains num den : ℚ) < 1 := by linarith
  have hlt : roundGrains num den < 1 := by exact_mod_cast hlt
  omega

/-! ### The largest doubles -/

theorem nearest_lt_iff {m : Nat} (hden : 0 < den) (hm : m % 2 = 0) (hpos : 0 < m) :
    nearest num den < m ↔ 2 * num < (2 * m - 1) * den := by
  have hr := Nat.mod_lt num hden
  have hnum := Nat.div_add_mod num den
  have hexpand : (2 * m - 1) * den = 2 * (den * (m - 1)) + den := by
    rw [show 2 * m - 1 = 2 * (m - 1) + 1 by omega]
    ring
  rw [hexpand]
  rcases Nat.lt_trichotomy (num / den) (m - 1) with hq | hq | hq
  · have hle := nearest_le num den
    have hmul : den * (num / den + 1) ≤ den * (m - 1) := Nat.mul_le_mul_left den hq
    rw [Nat.mul_add] at hmul
    constructor <;> intro <;> omega
  · -- Below an even number by less than one half, the nearest number is below it; by one half, it
    -- is not.
    rw [hq] at hnum
    unfold nearest
    simp only [hq]
    split
    next => constructor <;> intro <;> omega
    next => split <;> constructor <;> intro <;> omega
  · have hge := nearest_ge num den
    have hmul : den * m ≤ den * (num / den) := Nat.mul_le_mul_left den (by omega)
    have hm' : den * m = den * (m - 1) + den := by
      rw [← Nat.mul_succ, Nat.succ_eq_add_one, Nat.sub_add_cancel hpos]
    constructor <;> intro <;> omega

/-- Rounded grains are finite up to half a step above the largest double, exclusively. -/
theorem roundGrains_lt_overflow_iff (num : Nat) (hden : 0 < den) {a : Nat} (ha : a = 2045) :
    roundGrains num den < overflow ↔ 2 * num < (2 ^ 54 - 1) * (den * 2 ^ a) := by
  rw [overflow_eq (k := 53 + a) (by omega), roundGrains_eq, Nat.pow_add]
  rcases Nat.lt_trichotomy (spacing (num / den)) a with hs | hs | hs
  · have hstep : 2 ^ (spacing (num / den) + 1) ≤ 2 ^ a := Nat.pow_le_pow_right (by omega) hs
    rw [Nat.pow_succ] at hstep
    have hround : significand num den * 2 ^ spacing (num / den) ≤
        2 ^ 53 * 2 ^ spacing (num / den) :=
      Nat.mul_le_mul_right _ (significand_le num den)
    have hquotient : num < 2 ^ 53 * 2 ^ spacing (num / den) * den := by
      rw [← Nat.div_lt_iff_lt_mul hden, ← Nat.div_lt_iff_lt_mul (Nat.two_pow_pos _)]
      exact div_spacing_lt _
    have hpos := Nat.two_pow_pos (spacing (num / den))
    have hbound : 2 * (2 ^ 53 * 2 ^ spacing (num / den) * den) ≤ 2 ^ 53 * (den * 2 ^ a) := by
      calc 2 * (2 ^ 53 * 2 ^ spacing (num / den) * den) =
            2 ^ 53 * (den * (2 ^ spacing (num / den) * 2)) := by ring
        _ ≤ 2 ^ 53 * (den * 2 ^ a) := Nat.mul_le_mul_left _ (Nat.mul_le_mul_left _ hstep)
    constructor <;> intro <;> omega
  · subst hs
    rw [Nat.mul_lt_mul_right (Nat.two_pow_pos _), significand,
      nearest_lt_iff (Nat.mul_pos hden (Nat.two_pow_pos _)) (by decide) (by decide)]
    exact Iff.rfl
  · have hstep : 2 ^ (a + 1) ≤ 2 ^ spacing (num / den) := Nat.pow_le_pow_right (by omega) hs
    rw [Nat.pow_succ] at hstep
    have hnormal := (significand_normal num den).resolve_left (by omega)
    have hround : 2 ^ 52 * 2 ^ spacing (num / den) ≤
        significand num den * 2 ^ spacing (num / den) :=
      Nat.mul_le_mul_right _ hnormal
    have hquotient : 2 ^ 52 * 2 ^ spacing (num / den) * den ≤ num := by
      rw [← Nat.le_div_iff_mul_le hden]
      exact two_pow_le_of_spacing_ne_zero (by omega)
    have hbound : 2 ^ 53 * (den * 2 ^ a) ≤ 2 ^ 52 * 2 ^ spacing (num / den) * den := by
      calc 2 ^ 53 * (den * 2 ^ a) = 2 ^ 52 * (2 ^ a * 2) * den := by ring
        _ ≤ 2 ^ 52 * 2 ^ spacing (num / den) * den :=
            Nat.mul_le_mul_right _ (Nat.mul_le_mul_left _ hstep)
    constructor <;> intro <;> omega

/-! ### Rounding to doubles -/

theorem one_eq {a : Nat} (ha : a = 1074) : one = 2 ^ a := by
  rw [ha]
  decide +kernel

theorem threshold_eq {a : Nat} (ha : a = 970) : threshold = 2 ^ (a + 54) - 2 ^ a := by
  subst ha
  rfl

theorem one_lt_overflow : one < overflow := by
  obtain ⟨a, ha⟩ : ∃ a, a = 1074 := ⟨_, rfl⟩
  rw [one_eq ha, overflow_eq (k := a + 1024) (by omega)]
  exact Nat.pow_lt_pow_right (by decide) (by omega)

theorem Steps.one {a : Nat} (ha : a = 1074) : Steps one (2 ^ 52) (a - 52) :=
  ⟨by rw [one_eq ha, ← Nat.pow_add, Nat.add_sub_cancel' (by omega)], by decide, .inr le_rfl⟩

theorem one_lt_threshold : 1 < threshold := by
  obtain ⟨a, ha⟩ : ∃ a, a = 970 := ⟨_, rfl⟩
  have hpow : (1 : ℚ) ≤ 2 ^ a := one_le_pow₀ (by norm_num)
  rw [threshold_eq ha, pow_add]
  linarith

theorem threshold_mul_one {a : Nat} (ha : a = 2045) :
    2 * (threshold * one) = (2 ^ 54 - 1) * 2 ^ a := by
  obtain ⟨b, hb⟩ : ∃ b, b = 970 := ⟨_, rfl⟩
  obtain ⟨c, hc⟩ : ∃ c, c = 1074 := ⟨_, rfl⟩
  rw [threshold_eq hb, one_eq hc, show a = b + c + 1 by omega]
  push_cast
  ring

theorem cast_one_pos : (0 : ℚ) < one := by exact_mod_cast one_pos

theorem abs_signed_sub_signed (b : Bool) (p q : ℚ) : |signed b p - signed b q| = |p - q| := by
  rw [signed, signed, ← mul_sub, abs_mul]
  cases b <;> simp

theorem abs_signed (b : Bool) (p : ℚ) : |signed b p| = |p| := by
  rw [signed, abs_mul]
  cases b <;> simp

theorem abs_value (x : Binary64) : |x.value| = x.grains / one := by
  rw [value, abs_signed, abs_of_nonneg (div_nonneg (Nat.cast_nonneg _) cast_one_pos.le)]

/-- Two numbers as far from a third, one of them the other with the opposite sign, are the same
unless the third is zero. -/
theorem eq_or_eq_zero_of_abs_sub_eq {p q r : ℚ} (habs : |p| = |q|) (h : |r - p| = |r - q|) :
    p = q ∨ r = 0 := by
  rcases abs_eq_abs.1 habs with rfl | rfl
  · exact .inl rfl
  · rcases abs_eq_abs.1 h with h | h
    · exact .inl (by linarith)
    · exact .inr (by linarith)

theorem abs_div_sub_div (p q : ℚ) : |p / one - q / one| = |p - q| / one := by
  rw [← sub_div, abs_div, abs_of_pos cast_one_pos]

theorem lt_threshold_iff (num : Nat) (hden : 0 < den) :
    (num : ℚ) / den / one < threshold ↔ roundGrains num den < overflow := by
  obtain ⟨a, ha⟩ : ∃ a, a = 2045 := ⟨_, rfl⟩
  have hone := cast_one_pos
  have hd : (0 : ℚ) < den := by exact_mod_cast hden
  have hcast : 2 * num < (2 ^ 54 - 1) * (den * 2 ^ a) ↔
      (2 : ℚ) * num < (2 ^ 54 - 1) * 2 ^ a * den := by
    rw [← Nat.cast_lt (α := ℚ), mul_assoc, mul_comm ((2 : ℚ) ^ a)]
    push_cast
    norm_num
  rw [roundGrains_lt_overflow_iff num hden ha, hcast, ← threshold_mul_one ha]
  generalize (one : ℚ) = o at hone
  rw [div_lt_iff₀ hone, div_lt_iff₀ hd]
  constructor <;> intro <;> linarith

theorem value_ofGrains (negative : Bool) (h : Steps n k s) (hn : n < overflow) :
    (ofGrains negative n).value = signed negative (n / one) := by
  rw [value, negative_ofGrains, h.grains_ofGrains hn]

theorem value_zero (b : Bool) : (ofGrains b 0).value = 0 := by
  have hlt := Nat.zero_lt_of_lt one_lt_overflow
  rw [value, Steps.zero.grains_ofGrains hlt, Nat.cast_zero, zero_div, signed, mul_zero]

theorem value_one : (ofGrains false one).value = 1 := by
  rw [value_ofGrains false (Steps.one rfl) one_lt_overflow, div_self cast_one_pos.ne']
  exact one_mul _

/-- What is left of a distance to a double without the signs is the distance of the grains. -/
theorem abs_sub_grains_le (b : Bool) (amount : ℚ) (y : Binary64) (hamount : 0 ≤ amount) :
    |amount - y.grains| / one ≤ |signed b (amount / one) - y.value| := by
  have habs : |(|signed b (amount / one)| - |y.value|)| = |amount - y.grains| / one := by
    rw [abs_signed, abs_value, abs_of_nonneg (div_nonneg hamount (Nat.cast_nonneg _)),
      abs_div_sub_div]
  rw [← habs]
  exact abs_abs_sub_abs_le _ _

/-- Rounding a quotient of grains gives the rounding of the number it stands for. -/
theorem rounds_ofGrains (negative : Bool) (num : Nat) (hden : 0 < den) :
    Rounds negative (signed negative (num / den / one))
      (ofGrains negative (roundGrains num den)) := by
  have hone := cast_one_pos
  have hquotient : (0 : ℚ) ≤ num / den := div_nonneg (Nat.cast_nonneg _) (Nat.cast_nonneg _)
  have hfinite : |signed negative ((num : ℚ) / den / one)| < threshold ↔
      roundGrains num den < overflow := by
    rw [abs_signed, abs_of_nonneg (div_nonneg hquotient hone.le), lt_threshold_iff num hden]
  obtain ⟨k, s, hsteps, hparity⟩ := exists_steps_roundGrains num den
  have hdistance (hr : roundGrains num den < overflow) :
      |signed negative ((num : ℚ) / den / one) - (ofGrains negative (roundGrains num den)).value| =
        |(num : ℚ) / den - roundGrains num den| / one := by
    rw [value_ofGrains negative hsteps hr, abs_signed_sub_signed, abs_div_sub_div]
  refine ⟨negative_ofGrains _ _, fun h => ?_, fun h => isFinite_ofGrains _ (hfinite.1 h),
    fun h y _ => ?_, fun h y _ heq => ?_⟩
  · rw [magnitude_ofGrains]
    exact if_neg fun hr => absurd (hfinite.2 hr) (not_lt.2 h)
  · obtain ⟨_, _, hy⟩ := exists_steps_grains y
    rw [hdistance (hfinite.1 h)]
    exact (div_le_div_of_nonneg_right (hy.roundGrains_spec num hden).1 hone.le).trans
      (abs_sub_grains_le negative _ y hquotient)
  · have hr := hfinite.1 h
    obtain ⟨_, _, hy⟩ := exists_steps_grains y
    obtain ⟨hnear, heven⟩ := hy.roundGrains_spec num hden
    have hle : |(num : ℚ) / den - y.grains| ≤ |(num : ℚ) / den - roundGrains num den| := by
      have hle := abs_sub_grains_le negative _ y hquotient
      rwa [heq, hdistance hr, div_le_div_iff_of_pos_right hone] at hle
    rcases heven (le_antisymm hle hnear) with hgrains | hsignificand
    · left
      have habs : |y.value| = |(ofGrains negative (roundGrains num den)).value| := by
        rw [abs_value, abs_value, hsteps.grains_ofGrains hr, ← hgrains, grains]
      rcases eq_or_eq_zero_of_abs_sub_eq habs heq with hvalue | hzero
      · exact hvalue
      · -- Zero is rounded to zero, so that neither double is away from it.
        have hquotient : (num : ℚ) / den = 0 := by
          have habs := congrArg abs hzero
          rw [abs_signed, abs_zero, abs_eq_zero, div_eq_zero_iff] at habs
          exact habs.resolve_right hone.ne'
        rw [roundGrains_eq_zero hden (by rw [hquotient]; norm_num), value_zero] at heq ⊢
        rw [hzero, sub_zero, abs_zero, abs_eq_zero, zero_sub, neg_eq_zero] at heq
        exact heq
    · right
      rw [magnitude_ofGrains, hsteps.magnitudeOf_eq hr, hparity, hsignificand]

end SqlTemplate.Binary64
