import SqlTemplate.Proofs.Decimal.Prefix
import SqlTemplate.Proofs.Decimal.Written

/-! Numbers read back. An integer and a double are written as numerals that are read whole, in
their parts. The numeral of a double stands for the shortest decimal of its grains, which
rounds to them, and its exponent is far from those whose digits are not all counted. -/

namespace SqlTemplate.Decimal

open Binary64 (one overflow roundDecimal roundRatio roundGrains Steps)

variable {sign : Option Char} {digits : Text} {place : Int} {n k s : Nat} {x : Binary64}

/-! ### Shortest decimals -/

theorem roundDecimal_expansion (h : Steps n k s) :
    roundDecimal (expansion n).1 (expansion n).2 = n := by
  obtain ⟨a, ha⟩ : ∃ a, a = 1074 := ⟨_, rfl⟩
  have hexpansion : expansion n = (n * 5 ^ a, -(a : Int)) := by
    have hplace : (-1074 : Int) = -(a : Int) := by omega
    rw [expansion, hplace, ← ha]
    rfl
  have hquotient : n * 5 ^ a * 10 ^ 0 * one * 1 = n * 1 * 10 ^ a := by
    have hten : 10 ^ a = 5 ^ a * 2 ^ a := Nat.mul_pow 5 2 a
    rw [Binary64.one_eq ha, hten]
    ring
  have hround := Binary64.roundGrains_congr (Nat.pow_pos (by decide)) Nat.one_pos hquotient
  rw [h.roundGrains_mul Nat.one_pos] at hround
  simpa [hexpansion, roundDecimal, roundRatio] using hround

/-- The shortest decimal rounds to the grains that it is written for. -/
theorem roundDecimal_shortest (h : Steps n k s) :
    roundDecimal (shortest n).1 (shortest n).2 = n := by
  rw [shortest]
  cases hhit : firstHit? n with
  | some hit => exact roundDecimal_of_firstHit? hhit
  | none => exact roundDecimal_expansion h

/-- A whole number is on the grid of whole numbers. -/
theorem onGrid_zero (h : Steps (n * one) k s) : onGrid (n * one) 0 = some n := by
  have hlow : roundDecimal n 0 = n * one := by
    have hround := h.roundGrains_mul Nat.one_pos
    simpa [roundDecimal, roundRatio] using hround
  simp [onGrid, Nat.mul_div_cancel _ Binary64.one_pos, hlow, Binary64.one_pos]

/-- The first hit is on no finer grid than any other. -/
theorem exists_firstHit? {i d : Nat} (hi : i < 17) (h : onGrid n (leadingPlace n - i) = some d) :
    ∃ hit, firstHit? n = some hit ∧ leadingPlace n - i ≤ hit.2 := by
  have hmem : i ∈ List.range 17 := List.mem_range.2 hi
  have hgrid : (onGrid n (leadingPlace n - i)).map (·, leadingPlace n - (i : Int)) =
      some (d, leadingPlace n - i) := by
    rw [h]
    rfl
  cases hhit : firstHit? n with
  | none =>
    rw [List.findSome?_eq_none_iff.1 hhit i hmem] at hgrid
    cases hgrid
  | some hit =>
    obtain ⟨before, j, after, hrange, hj, hbefore⟩ := List.findSome?_eq_some_iff.1 hhit
    obtain ⟨c, -, rfl⟩ := Option.map_eq_some_iff.1 hj
    have hsorted := List.pairwise_lt_range (n := 17)
    rw [hrange] at hsorted hmem
    refine ⟨_, rfl, ?_⟩
    rcases List.mem_append.1 hmem with hmem | hmem
    · rw [hbefore i hmem] at hgrid
      cases hgrid
    · rcases List.mem_cons.1 hmem with rfl | hmem
      · exact le_rfl
      · have hlt := (List.pairwise_cons.1 (List.pairwise_append.1 hsorted).2.1).1 i hmem
        show leadingPlace n - (i : Int) ≤ leadingPlace n - (j : Int)
        omega

/-- A whole number of few digits has a shortest decimal without places. -/
theorem place_shortest_nonneg (h : Steps (n * one) k s) (hpos : 0 < n) (hlt : n < 10 ^ 15) :
    0 ≤ (shortest (n * one)).2 := by
  have hlength : (Nat.toDigits 10 n).length ≤ 15 :=
    (Nat.length_toDigits_le_iff (by decide) (by decide)).2 hlt
  have hone : 0 < (Nat.toDigits 10 n).length := List.length_pos_iff.2 Nat.toDigits_ne_nil
  have hleading : leadingPlace (n * one) = ((Nat.toDigits 10 n).length - 1 : Nat) := by
    rw [leadingPlace, if_pos (Nat.le_mul_of_pos_left _ hpos), Nat.mul_div_cancel _ Binary64.one_pos]
    omega
  have hgrid :
      onGrid (n * one) (leadingPlace (n * one) - ((Nat.toDigits 10 n).length - 1 : Nat)) =
        some n := by
    rw [hleading, sub_self, onGrid_zero h]
  obtain ⟨hit, hhit, hplace⟩ := exists_firstHit? (by omega) hgrid
  rw [hleading, sub_self] at hplace
  rwa [shortest, hhit]

/-! ### Digits that are left -/

theorem withoutZeros_spec (digits : Text) (place : Int) :
    ∃ k : Nat, digits = (withoutZeros digits place).1 ++ List.replicate k '0' ∧
    (withoutZeros digits place).2 = place + k := by
  have hzeros : (digits.reverse.takeWhile (· = '0')).reverse =
      List.replicate (digits.reverse.takeWhile (· = '0')).length '0' := by
    have hall : ∀ c ∈ (digits.reverse.takeWhile (· = '0')).reverse, c = '0' := fun c hc => by
      simpa using List.mem_takeWhile_imp (List.mem_reverse.1 hc)
    simpa using List.eq_replicate_of_mem hall
  have hdigits : digits = (withoutZeros digits place).1 ++
      List.replicate (digits.reverse.takeWhile (· = '0')).length '0' := by
    rw [← hzeros, withoutZeros, ← List.reverse_append, List.takeWhile_append_dropWhile,
      List.reverse_reverse]
  refine ⟨_, hdigits, ?_⟩
  have hlength := congrArg List.length hdigits
  rw [List.length_append, List.length_replicate] at hlength
  simp only [withoutZeros] at hlength ⊢
  omega

theorem cast_mul_ten_pow (d k : Nat) (place : Int) :
    ((d * 10 ^ k : Nat) : ℚ) * 10 ^ place = d * 10 ^ (place + k) := by
  rw [Nat.cast_mul, Nat.cast_pow, Nat.cast_ofNat, mul_assoc, zpow_add₀ (by norm_num), zpow_natCast,
    mul_comm (10 ^ place)]

/-- Zeros at the end are counted in the place. -/
theorem amount_withoutZeros (digits : Text) (place : Int) :
    (digitsValue (withoutZeros digits place).1 : ℚ) * 10 ^ (withoutZeros digits place).2 =
      digitsValue digits * 10 ^ place := by
  obtain ⟨k, hdigits, hplace⟩ := withoutZeros_spec digits place
  have hvalue := congrArg digitsValue hdigits
  rw [digitsValue_append_zeros] at hvalue
  rw [hvalue, hplace, cast_mul_ten_pow]

/-- The leading digit of a decimal that rounds to a positive finite count of grains is
near the point. -/
theorem leading_bounds {d : Nat} (hpos : roundDecimal d place ≠ 0)
    (hlt : roundDecimal d place < overflow) :
    -400 < place + (natText d).length ∧ place + (natText d).length - 1 < 512 := by
  constructor
  · by_contra hsmall
    exact hpos (Numeral.roundDecimal_of_small (lt_ten_pow_length d) (by omega))
  · by_contra hlarge
    have hd : d ≠ 0 := by
      rintro rfl
      exact hpos (roundDecimal_zero place)
    have hlength : 0 < (natText d).length := List.length_pos_iff.2 (natText_ne_nil d)
    have hle : ((10 ^ ((natText d).length - 1) : Nat) : ℚ) ≤ d := by
      exact_mod_cast ten_pow_le_of_lt_length hd (Nat.sub_lt hlength Nat.one_pos)
    refine not_le.2 hlt (Binary64.overflow_le_roundDecimal ?_)
    calc (10 : ℚ) ^ 512 = 10 ^ (512 : Int) := by rw [← zpow_natCast]; rfl
      _ ≤ 10 ^ (((natText d).length - 1 : Nat) + place : Int) :=
          zpow_le_zpow_right₀ (by norm_num) (by omega)
      _ = (10 ^ ((natText d).length - 1) : Nat) * 10 ^ place := by
        rw [zpow_add₀ (by norm_num), zpow_natCast, Nat.cast_pow, Nat.cast_ofNat]
      _ ≤ d * 10 ^ place := mul_le_mul_of_nonneg_right hle (zpow_nonneg (by norm_num) _)

/-! ### Numerals -/

/-- The sign of what is written. -/
def minus (negative : Bool) : Option Char := if negative then some '-' else none

theorem isSign_minus (negative : Bool) : IsSign (minus negative) := by
  rintro c hc
  cases negative <;> cases hc
  exact .inr rfl

theorem minus_toList_append (negative : Bool) (t : Text) :
    (minus negative).toList ++ t = if negative then '-' :: t else t := by
  cases negative <;> rfl

theorem negative_of_sign {m : Numeral} {negative : Bool} (h : m.sign = minus negative) :
    m.negative = negative := by
  rw [Numeral.negative, h]
  cases negative <;> rfl

/-- The numeral of digits alone. -/
def wholeNumeral (sign : Option Char) (digits : Text) : Numeral := ⟨sign, digits, none, none⟩

theorem valid_wholeNumeral (hs : IsSign sign) (hd : AllDigits digits) (hne : digits ≠ []) :
    (wholeNumeral sign digits).Valid where
  sign := hs
  whole := hd
  fraction := by rintro f ⟨⟩
  exponent := by rintro e ⟨⟩
  ne_nil := .inl hne

theorem text_wholeNumeral (sign : Option Char) (digits : Text) :
    (wholeNumeral sign digits).text = sign.toList ++ digits := by
  simp [wholeNumeral, Numeral.text, Numeral.fractionText, Numeral.exponentText]

theorem negative_wholeNumeral (negative : Bool) (digits : Text) :
    (wholeNumeral (minus negative) digits).negative = negative := negative_of_sign rfl

/-- A numeral is written with a sign in front of a text and stands for a decimal. Its exponent is
the place of the leading digit, or there is none. -/
structure Notates (m : Numeral) (sign : Option Char) (t digits : Text) (place : Int) : Prop where
  valid : m.Valid
  sign_eq : m.sign = sign
  text_eq : m.text = sign.toList ++ t
  amount : (digitsValue m.digits : ℚ) * 10 ^ (m.exactExponent - m.places) =
  digitsValue digits * 10 ^ place
  exponent : m.exactExponent = 0 ∨ m.exactExponent = place + digits.length - 1

theorem exists_notates_positional (hs : IsSign sign) (hd : AllDigits digits) (hne : digits ≠ [])
    (place : Int) : ∃ m, Notates m sign (positional digits place) digits place := by
  rcases Int.lt_or_le place 0 with hplace | hplace
  · obtain ⟨w, f, ht, hw, hf, k, hwf⟩ := positional_of_neg digits hplace
    have hdigits : AllDigits (w ++ f) := hwf ▸ allDigits_append.2 ⟨allDigits_zeros k, hd⟩
    rw [allDigits_append] at hdigits
    refine ⟨⟨sign, w, some f, none⟩,
      ⟨hs, hdigits.1, by rintro g ⟨⟩; exact hdigits.2, by rintro e ⟨⟩, .inl hw⟩,
      rfl, ?_, ?_, .inl rfl⟩
    · simp [Numeral.text, Numeral.fractionText, Numeral.exponentText, ht]
    · have hvalue : digitsValue (w ++ f) = digitsValue digits := by
        rw [hwf, digitsValue_zeros_append]
      have hplaces : (0 : Int) - f.length = place := by omega
      simp only [Numeral.digits, Numeral.places, Numeral.exactExponent, Option.getD_some,
        Option.map_none, Option.getD_none, hvalue, hplaces]
  · obtain ⟨j, rfl⟩ := Int.eq_ofNat_of_zero_le hplace
    have ht : positional digits j = digits ++ List.replicate j '0' := if_pos hplace
    have hvalid :=
      valid_wholeNumeral hs (allDigits_append.2 ⟨hd, allDigits_zeros j⟩) (by simp [hne])
    refine ⟨_, hvalid, rfl, by rw [text_wholeNumeral, ht], ?_, .inl rfl⟩
    simp only [wholeNumeral, Numeral.digits, Numeral.places, Numeral.exactExponent,
      Option.getD_none, Option.map_none,
      List.append_nil, digitsValue_append_zeros, cast_mul_ten_pow, List.length_nil]
    simp

theorem exact_natText (mark : Char) (e : Int) :
    (Exponent.mk mark (some (if e < 0 then '-' else '+')) (natText e.natAbs)).exact = e := by
  rw [Exponent.exact, digitsValue_natText]
  by_cases he : e < 0
  · rw [if_pos he, if_pos rfl]
    omega
  · rw [if_neg he, if_neg (by simp)]
    omega

theorem exists_notates_scientific (hs : IsSign sign) (hd : AllDigits digits) (hne : digits ≠ [])
    (place : Int) : ∃ m, Notates m sign (scientific digits place) digits place := by
  obtain ⟨d, f, hdf, hf, ht⟩ := scientific_of_ne_nil hne place
  have hdigits : AllDigits ([d] ++ f) := by
    rcases hdf with hdf | ⟨hdf, -⟩ <;> rw [List.singleton_append, hdf]
    · exact hd
    · exact allDigits_append.2 ⟨hd, by decide⟩
  obtain ⟨hwhole, hfraction⟩ := allDigits_append.1 hdigits
  set e := place + (digits.length : Int) - 1 with he
  let m : Numeral :=
    ⟨sign, [d], some f, some ⟨'E', some (if e < 0 then '-' else '+'), natText e.natAbs⟩⟩
  have hexact : m.exactExponent = e := exact_natText 'E' e
  have hvalid : m.Valid := by
    refine ⟨hs, hwhole, by rintro g ⟨⟩; exact hfraction, ?_, .inl (by simp [m])⟩
    rintro x ⟨⟩
    refine ⟨.inr rfl, ?_, allDigits_natText _, natText_ne_nil _⟩
    rintro c ⟨⟩
    split <;> simp
  have hamount : (digitsValue m.digits : ℚ) * 10 ^ (m.exactExponent - m.places) =
      digitsValue digits * 10 ^ place := by
    show (digitsValue (d :: f) : ℚ) * 10 ^ (m.exactExponent - f.length) = _
    rw [hexact]
    rcases hdf with hdf | ⟨hdf, hone⟩
    · have hlength := congrArg List.length hdf
      rw [List.length_cons] at hlength
      rw [hdf, show e - f.length = place by omega]
    · have hplace : e - f.length + (1 : Nat) = place := by
        have hlength := congrArg List.length hdf
        simp only [hone, List.length_cons, List.length_append, List.length_nil] at hlength he
        omega
      rw [hdf, ← List.replicate_one, digitsValue_append_zeros, cast_mul_ten_pow, hplace]
  refine ⟨m, hvalid, rfl, ?_, hamount, .inr hexact⟩
  rw [ht]
  simp [m, Numeral.text, Numeral.fractionText, Numeral.exponentText, Exponent.text]

/-! ### Integers -/

/-- An integer is written as a numeral without point and exponent. -/
theorem exists_numeral_intText (n : Int) :
    ∃ m : Numeral, m.Valid ∧ m.text = intText n ∧ m.fraction = none ∧ m.exponent = none ∧
    m.wholeValue = n := by
  refine ⟨wholeNumeral (minus (n < 0)) (natText n.natAbs),
    valid_wholeNumeral (isSign_minus _) (allDigits_natText _) (natText_ne_nil _), ?_, rfl, rfl, ?_⟩
  · simp only [text_wholeNumeral, minus_toList_append, decide_eq_true_eq, intText]
  · rw [Numeral.wholeValue, negative_wholeNumeral, wholeNumeral, digitsValue_natText]
    simp only [decide_eq_true_eq]
    split <;> omega

/-- The text of an integer is read as the integer. -/
theorem numericPrefix?_intText (n : Int64) : numericPrefix? (intText n.toInt) = some (.int n) := by
  obtain ⟨m, hvalid, htext, hfraction, hexponent, hvalue⟩ := exists_numeral_intText n.toInt
  rw [← htext, numericPrefix?_text hvalid, Option.some.injEq, Numeral.toNumeric_eq_int_iff]
  refine ⟨hfraction, hexponent, ?_⟩
  rw [← Numeral.wholeValue_eq_value hfraction hexponent, hvalue]

/-! ### Doubles -/

theorem exists_notates (withExponent : Bool) (hs : IsSign sign) (hd : AllDigits digits)
    (hne : digits ≠ []) (place : Int) :
    ∃ m, Notates m sign (notate withExponent digits place) digits place := by
  cases withExponent with
  | true => exact exists_notates_scientific hs hd hne place
  | false => exact exists_notates_positional hs hd hne place

/-- A positive finite count of grains is written as a numeral that rounds to it, with all digits of
its exponent counted. -/
theorem exists_numeral_grainsText (h : Steps n k s) (hn : n ≠ 0) (hlt : n < overflow)
    (hs : IsSign sign) :
    ∃ m : Numeral, m.Valid ∧ m.sign = sign ∧ m.text = sign.toList ++ grainsText n ∧ m.InReach ∧
      roundDecimal (digitsValue m.digits) (m.exactExponent - m.places) = n := by
  have hround := roundDecimal_shortest h
  have hne := shortest_ne_zero hn
  have htext : grainsText n =
      notate (needsExponent n) (withoutZeros (natText (shortest n).1) (shortest n).2).1
        (withoutZeros (natText (shortest n).1) (shortest n).2).2 := rfl
  -- The search for the decimal is over: all that counts from here on is that it
  -- rounds to the grains.
  generalize shortest n = decimal at *
  obtain ⟨d, place⟩ := decimal
  obtain ⟨j, hkept, hplace⟩ := withoutZeros_spec (natText d) place
  have hdigits := allDigits_natText d
  rw [hkept] at hdigits
  obtain ⟨m, hm⟩ :=
    exists_notates (needsExponent n) hs (allDigits_append.1 hdigits).1
      (withoutZeros_ne_nil hne place) (withoutZeros (natText d) place).2
  -- The zeros that were dropped are in the place, so the exponent is that of the
  -- leading digit still.
  have hreach : m.InReach := by
    have hbounds : -400 < place + (natText d).length ∧ place + (natText d).length - 1 < 512 :=
      leading_bounds (by rwa [hround]) (by rwa [hround])
    have hlength := congrArg List.length hkept
    rw [List.length_append, List.length_replicate] at hlength
    exact .inl (by rcases hm.exponent with h | h <;> omega)
  have hamount := hm.amount
  rw [amount_withoutZeros, digitsValue_natText] at hamount
  exact ⟨m, hm.valid, hm.sign_eq, htext ▸ hm.text_eq, hreach,
    (Binary64.roundDecimal_congr hamount).trans hround⟩

/-- A finite double is written as a numeral that rounds to it. -/
theorem exists_numeral_doubleText (hx : x.isFinite) :
    ∃ m : Numeral, m.Valid ∧ m.text = doubleText x ∧ m.toBinary64 = x := by
  by_cases hzero : x.grains = 0
  · refine ⟨wholeNumeral (minus x.negative) ['0'],
      valid_wholeNumeral (isSign_minus _) (by decide) (List.cons_ne_nil _ _), ?_, ?_⟩
    · simp only [text_wholeNumeral, minus_toList_append, doubleText, if_pos hzero]
    · have hdigits : digitsValue (wholeNumeral (minus x.negative) ['0']).digits = 0 := rfl
      rw [Numeral.toBinary64_eq, negative_wholeNumeral, hdigits, Binary64.ofDecimal,
        roundDecimal_zero, ← hzero, Binary64.ofGrains_grains hx]
  · obtain ⟨k, s, hsteps⟩ := Binary64.exists_steps_grains x
    obtain ⟨m, hvalid, hsign, htext, hreach, hround⟩ := exists_numeral_grainsText hsteps hzero
      (Binary64.grains_lt_overflow hx) (isSign_minus x.negative)
    refine ⟨m, hvalid, ?_, ?_⟩
    · rw [htext, minus_toList_append]
      simp only [doubleText, if_neg hzero]
    · rw [Numeral.toBinary64_eq_exact hvalid hreach, negative_of_sign hsign,
        Binary64.ofDecimal, hround, Binary64.ofGrains_grains hx]

/-- A numeral without point and exponent rounds as its integer does. -/
theorem toBinary64_of_integer {m : Numeral} (hfraction : m.fraction = none)
    (hexponent : m.exponent = none) :
    m.toBinary64 = Binary64.ofGrains m.negative (roundRatio m.wholeValue.natAbs 1) := by
  have habs : m.wholeValue.natAbs = digitsValue m.whole := by
    rw [Numeral.wholeValue]
    split <;> omega
  simp [Numeral.toBinary64, hfraction, hexponent, habs, Binary64.ofDecimal, roundDecimal]

/-- What is read as an integer is equal to the rounding of the numeral; only the sign of
zero is lost. -/
theorem equal_ofInt {m : Numeral} {j : Int64} (h : m.toNumeric = .int j) :
    (Binary64.ofInt j.toInt).equal m.toBinary64 := by
  have hfinite := Binary64.isFinite_ofInt64 j
  obtain ⟨hfraction, hexponent, hvalue⟩ := Numeral.toNumeric_eq_int_iff.1 h
  rw [← Numeral.wholeValue_eq_value hfraction hexponent, Int.cast_inj] at hvalue
  rw [← hvalue, Binary64.ofInt] at hfinite ⊢
  rw [toBinary64_of_integer hfraction hexponent]
  refine Binary64.equal_ofGrains hfinite ?_
  -- The integer has the sign of the numeral, unless the numeral is a zero with a minus.
  by_cases hzero : m.wholeValue = 0
  · right
    rw [hzero, Int.natAbs_zero, roundRatio, Nat.zero_mul, roundGrains_zero]
  · left
    by_cases hneg : m.negative
    · have hsigned : m.wholeValue = -(digitsValue m.whole : Int) := if_pos hneg
      rw [hneg, decide_eq_true_eq]
      omega
    · have hsigned : m.wholeValue = digitsValue m.whole := if_neg hneg
      rw [Bool.eq_false_iff.2 hneg, decide_eq_false_iff_not]
      omega

/-- What is read from the text of a double is equal to it. -/
theorem textToDouble_doubleText (hx : x.isFinite) : (textToDouble (doubleText x)).equal x := by
  obtain ⟨m, hvalid, htext, hdouble⟩ := exists_numeral_doubleText hx
  rw [textToDouble, ← htext, numericPrefix?_text hvalid]
  cases hnumeric : m.toNumeric with
  | int j =>
    have hequal := equal_ofInt hnumeric
    rwa [hdouble] at hequal
  | float y =>
    have hy :=
      Numeral.toNumeric_eq_float (n := m) fun j hj => by rw [hj] at hnumeric; cases hnumeric
    rw [hnumeric, hdouble, Numeric.float.injEq] at hy
    rw [hy]
    simp only [if_pos hx]
    exact Binary64.equal_self hx

/-! ### Forms -/

theorem needsExponent_iff (n : Nat) :
    needsExponent n ↔ 10 ^ 15 ≤ (n : ℚ) / one ∨ (n : ℚ) / one < 1 / 10 ^ 4 := by
  have hone := Binary64.cast_one_pos
  rw [needsExponent, Bool.or_eq_true, decide_eq_true_eq, decide_eq_true_eq]
  generalize one = o at hone
  rw [le_div_iff₀ hone, div_lt_div_iff₀ hone (by norm_num), one_mul]
  exact_mod_cast Iff.rfl

/-- Numbers are written with an exponent if they are large or small. -/
theorem ofDouble_eq_exponent_iff (x : Binary64) :
    Form.ofDouble x = .exponent ↔ 10 ^ 15 ≤ |x.value| ∨ 0 < |x.value| ∧ |x.value| < 1 / 10 ^ 4 := by
  rw [Binary64.abs_value, Form.ofDouble]
  have hone := Binary64.cast_one_pos
  by_cases hzero : x.grains = 0
  · rw [if_pos hzero, hzero, Nat.cast_zero, zero_div]
    exact iff_of_false (by simp) (by norm_num)
  · have hpos : 0 < (x.grains : ℚ) / one :=
      div_pos (by exact_mod_cast Nat.pos_of_ne_zero hzero) hone
    have hplace : Form.ofPlace (lastPlace x.grains) ≠ .exponent := by
      rw [Form.ofPlace]
      split <;> simp
    rw [if_neg hzero, Form.ofGrains, and_iff_right hpos, ← needsExponent_iff]
    split
    next hneeds => exact iff_of_true rfl hneeds
    next hneeds => exact iff_of_false hplace hneeds

/-- Whole numbers that are not large are written without a point. -/
theorem ofDouble_eq_whole (hint : ∃ j : ℤ, x.value = j) (hlt : |x.value| < 10 ^ 15) :
    Form.ofDouble x = .whole := by
  obtain ⟨j, hj⟩ := hint
  have hone := Binary64.cast_one_pos
  have habs : ((j.natAbs : Nat) : ℚ) = x.grains / one := by
    rw [← Binary64.abs_value, hj, Nat.cast_natAbs, Int.cast_abs]
  rw [Binary64.abs_value, ← habs] at hlt
  have hfew : j.natAbs < 10 ^ 15 := by exact_mod_cast hlt
  have hgrains : x.grains = j.natAbs * one := by
    rw [eq_div_iff hone.ne'] at habs
    exact_mod_cast habs.symm
  by_cases hzero : x.grains = 0
  · exact if_pos hzero
  · have hpos : 0 < j.natAbs := by
      rw [Nat.pos_iff_ne_zero]
      rintro hj
      exact hzero (by rw [hgrains, hj, Nat.zero_mul])
    have hexponent : ¬needsExponent x.grains := by
      have hle : (1 : ℚ) ≤ j.natAbs := by exact_mod_cast hpos
      rw [needsExponent_iff, ← habs, not_or, not_le, not_lt]
      exact ⟨hlt, le_trans (by norm_num) hle⟩
    have hplace : 0 ≤ lastPlace x.grains := by
      obtain ⟨k, s, hsteps⟩ := Binary64.exists_steps_grains x
      rw [hgrains] at hsteps ⊢
      obtain ⟨i, -, hi⟩ :=
        withoutZeros_spec (natText (shortest (j.natAbs * one)).1) (shortest (j.natAbs * one)).2
      have hshortest := place_shortest_nonneg hsteps hpos hfew
      rw [lastPlace, hi]
      exact Int.add_nonneg hshortest (Int.natCast_nonneg i)
    rw [Form.ofDouble, if_neg hzero, Form.ofGrains, if_neg hexponent, Form.ofPlace, if_pos hplace]

/-- Numbers read back. The text of an integer is read as the integer. That of a finite double is
read whole, and what is read is equal to the double; it has an exponent if the number is large or
small, and else no point if the number is whole. -/
theorem written_numbers_read_back :
    (∀ n : Int64, textToInt (intText n.toInt) = n) ∧
    ∀ x : Binary64, x.isFinite →
      (∃ m : Numeral, m.text = doubleText x ∧ m.Longest ((doubleText x).dropWhile isPadding) ∧
        numericPrefix? (doubleText x) = some m.toNumeric) ∧
      (textToDouble (doubleText x)).equal x ∧
      (Form.exponent.Literal (doubleText x) ↔ 10 ^ 15 ≤ |x.value| ∨ 0 < |x.value| ∧
        |x.value| < 1 / 10 ^ 4) ∧
      ((∃ j : ℤ, x.value = j) → |x.value| < 10 ^ 15 → Form.whole.Literal (doubleText x)) := by
  refine ⟨fun n => ?_, fun x hx => ⟨?_, textToDouble_doubleText hx, ?_, fun hint hlt => ?_⟩⟩
  · rw [textToInt, numericPrefix?_intText]
  · obtain ⟨m, hvalid, htext, -⟩ := exists_numeral_doubleText hx
    rw [← htext]
    exact ⟨m, rfl, longest_text hvalid, numericPrefix?_text hvalid⟩
  · rw [← ofDouble_eq_exponent_iff]
    constructor
    · exact fun h => (literal_doubleText x).unique h
    · intro h
      rw [← h]
      exact literal_doubleText x
  · rw [← ofDouble_eq_whole hint hlt]
    exact literal_doubleText x

theorem one_reads_back :
    (Binary64.ofGrains false one).isFinite ∧ (Binary64.ofGrains false one).value = 1 ∧
      (textToDouble (doubleText (Binary64.ofGrains false one))).equal
        (Binary64.ofGrains false one) ∧
      Form.whole.Literal (doubleText (Binary64.ofGrains false one)) := by
  have hfinite := Binary64.isFinite_ofGrains false Binary64.one_lt_overflow
  obtain ⟨-, hequal, -, hwhole⟩ := written_numbers_read_back.2 _ hfinite
  rw [Binary64.value_one, abs_one] at hwhole
  exact ⟨hfinite, Binary64.value_one, hequal, hwhole ⟨1, Int.cast_one.symm⟩ (by norm_num)⟩

end SqlTemplate.Decimal
