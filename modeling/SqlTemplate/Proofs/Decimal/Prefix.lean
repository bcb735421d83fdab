import SqlTemplate.Proofs.Binary64.Integer
import SqlTemplate.Proofs.Decimal.Value

/-! The number a text begins with. Behind the padding the longest numeral is taken, as a 64-bit
integer if it is one and else as a double, and nothing else of the text matters. A double
is the rounding of the numeral's number, unless digits of an exponent that no longer
count meet as many digits of the numeral. -/

namespace SqlTemplate.Decimal

variable {n : Numeral} {t u : Text}

/-! ### Single bytes -/

theorem utf8Size_of_isPadding {c : Char} (h : isPadding c) : c.utf8Size = 1 := by
  simp only [isPadding, Bool.or_eq_true, decide_eq_true_eq] at h
  rcases h with ((((rfl | rfl) | rfl) | rfl) | rfl) | rfl <;> rfl

theorem utf8Size_of_isDigit {c : Char} (h : c.isDigit) : c.utf8Size = 1 := by
  rw [Char.isDigit, Bool.and_eq_true, decide_eq_true_eq, decide_eq_true_eq] at h
  exact Char.utf8Size_eq_one_iff.2 (UInt32.le_trans h.2 (by decide))

theorem utf8Size_of_isSign {sign : Option Char} (h : IsSign sign) :
    ∀ c ∈ sign.toList, c.utf8Size = 1 := by
  intro c hc
  rcases h c (by simpa using hc) with rfl | rfl <;> rfl

theorem size_eq_length (h : ∀ c ∈ t, c.utf8Size = 1) : Text.size t = t.length := by
  induction t with
  | nil => rfl
  | cons c t ih =>
    have ht := ih fun d hd => h d (by simp [hd])
    rw [Text.size_cons, h c (by simp), ht, List.length_cons, Nat.add_comm]

namespace Numeral

theorem utf8Size_of_mem_text (hn : n.Valid) : ∀ c ∈ n.text, c.utf8Size = 1 := by
  intro c hc
  simp only [text, List.mem_append] at hc
  rcases hc with hc | hc | hc | hc
  · exact utf8Size_of_isSign hn.sign c hc
  · exact utf8Size_of_isDigit (hn.whole c hc)
  · cases hf : n.fraction with
    | none => simp [hf, fractionText] at hc
    | some f =>
      rw [hf, fractionText] at hc
      rcases List.mem_cons.1 hc with rfl | hc
      · rfl
      · exact utf8Size_of_isDigit (hn.fraction f hf c hc)
  · cases he : n.exponent with
    | none => simp [he, exponentText] at hc
    | some e =>
      have hvalid := hn.exponent e he
      rw [he, exponentText, Exponent.text] at hc
      rcases List.mem_cons.1 hc with rfl | hc
      · rcases hvalid.mark with h | h <;> rw [h] <;> rfl
      rcases List.mem_append.1 hc with hc | hc
      · exact utf8Size_of_isSign hvalid.sign c hc
      · exact utf8Size_of_isDigit (hvalid.digits c hc)

/-- A numeral begins behind the padding. -/
theorem dropWhile_isPadding (hn : n.Valid) {padding : Text}
    (hp : ∀ c ∈ padding, isPadding c) (u : Text) :
    (padding ++ (n.text ++ u)).dropWhile isPadding = n.text ++ u := by
  rw [List.dropWhile_append_of_pos hp]
  have hread := read?_text hn
  cases htext : n.text with
  | nil =>
    rw [htext] at hread
    cases hread
  | cons c r =>
    have hc : isPadding c = false := by
      by_contra hpad
      rw [Bool.not_eq_false, isPadding] at hpad
      simp only [Bool.or_eq_true, decide_eq_true_eq] at hpad
      rw [htext] at hread
      rcases hpad with ((((rfl | rfl) | rfl) | rfl) | rfl) | rfl <;> cases hread
    rw [List.cons_append, List.dropWhile_cons_of_neg (by simp [hc])]

end Numeral

/-! ### Prefixes -/

theorem numericPrefix?_eq_none_iff :
    numericPrefix? t = none ↔ ∀ n : Numeral, n.Valid → ¬n.text <+: t.dropWhile isPadding := by
  rw [numericPrefix?, Option.map_eq_none_iff, Numeral.read?_eq_none_iff]

theorem numericPrefix?_of_longest (hn : n.Longest (t.dropWhile isPadding)) :
    numericPrefix? t = some n.toNumeric := by
  obtain ⟨u, hu⟩ := hn.isPrefix
  rw [numericPrefix?, Numeral.read?_eq_some_iff.2 ⟨hn, hu.symm⟩]
  rfl

/-- The text of a numeral is taken whole. -/
theorem longest_text (hn : n.Valid) : n.Longest (n.text.dropWhile isPadding) := by
  have hdrop := Numeral.dropWhile_isPadding hn (List.forall_mem_nil _) []
  rw [List.append_nil, List.nil_append] at hdrop
  rw [hdrop]
  exact (Numeral.longest_of_read? (Numeral.read?_text hn)).1

theorem numericPrefix?_text (hn : n.Valid) : numericPrefix? n.text = some n.toNumeric :=
  numericPrefix?_of_longest (longest_text hn)

/-- The number of a text is that of the longest numeral, `[+-]? (D+ (. D*)? | . D+) ([eE] [+-]?
D+)?`, that stands behind its padding, and there is none only if no such numeral stands there. It
is an integer if the numeral has neither a point nor an exponent and its number fits 64 bits, and
else the rounding of the numeral's number, for a numeral out of reach with the exponent that is
counted. Any text may follow the numeral that does not make a longer one, and what is taken begins
and ends between characters. -/
theorem numericPrefix?_spec (t : Text) :
    (numericPrefix? t = none ↔ ∀ n : Numeral, n.Valid → ¬n.text <+: t.dropWhile isPadding) ∧
    (numericPrefix? t ≠ none → ∃ n : Numeral, n.Longest (t.dropWhile isPadding)) ∧
    ∀ n : Numeral, n.Longest (t.dropWhile isPadding) →
      (∀ k : Int64, numericPrefix? t = some (.int k) ↔ n.fraction = none ∧ n.exponent = none ∧
        n.value = k.toInt) ∧
      ((¬∃ k : Int64, n.fraction = none ∧ n.exponent = none ∧ n.value = k.toInt) →
        ∃ x, numericPrefix? t = some (.float x) ∧
        x.Rounds n.negative (n.valueAt n.countedExponent) ∧
          (n.InReach → x.Rounds n.negative n.value)) ∧
      (∀ padding u : Text, (∀ c ∈ padding, isPadding c) → n.Longest (n.text ++ u) →
        numericPrefix? (padding ++ (n.text ++ u)) = numericPrefix? t) ∧
      ∃ padding rest : Text, t = padding ++ (n.text ++ rest) ∧ (∀ c ∈ padding, isPadding c) ∧
        Text.fromByte? padding.length t = some (n.text ++ rest) ∧
        Text.fromByte? (padding.length + n.text.length) t = some rest := by
  refine ⟨numericPrefix?_eq_none_iff, fun h => ?_,
    fun n hn => ⟨fun k => ?_, fun hint => ?_, ?_, ?_⟩⟩
  · rw [numericPrefix?, ne_eq, Option.map_eq_none_iff] at h
    obtain ⟨⟨n, r⟩, hread⟩ := Option.ne_none_iff_exists'.1 h
    exact ⟨n, (Numeral.longest_of_read? hread).1⟩
  · rw [numericPrefix?_of_longest hn, Option.some.injEq, Numeral.toNumeric_eq_int_iff]
  · have hfloat :=
      Numeral.toNumeric_eq_float fun k hk => hint ⟨k, Numeral.toNumeric_eq_int_iff.1 hk⟩
    refine ⟨n.toBinary64, ?_, n.rounds_countedExponent, Numeral.rounds_value hn.valid⟩
    rw [numericPrefix?_of_longest hn, hfloat]
  · intro padding u hpadding hlongest
    rw [numericPrefix?_of_longest hn, numericPrefix?_of_longest]
    rwa [Numeral.dropWhile_isPadding hn.valid hpadding]
  · obtain ⟨rest, hrest⟩ := hn.isPrefix
    have hpadding : ∀ c ∈ t.takeWhile isPadding, isPadding c :=
      fun c hc => List.mem_takeWhile_imp hc
    have ht : t = t.takeWhile isPadding ++ (n.text ++ rest) := by
      rw [hrest, List.takeWhile_append_dropWhile]
    have hsize := size_eq_length fun c hc => utf8Size_of_isPadding (hpadding c hc)
    have hstart := Text.fromByte?_append (t.takeWhile isPadding) (n.text ++ rest)
    have hend := Text.fromByte?_append (t.takeWhile isPadding ++ n.text) rest
    rw [← ht, hsize] at hstart
    rw [List.append_assoc, ← ht, Text.size_append, hsize,
      size_eq_length (Numeral.utf8Size_of_mem_text hn.valid)] at hend
    exact ⟨t.takeWhile isPadding, rest, ht, hpadding, hstart, hend⟩

/-- An exponent that is cut off because no digit follows its sign. -/
theorem numericPrefix?_of_cut_exponent :
    (Numeral.mk (some '-') "12".toList (some "5".toList) none).Longest
      ((" \t-12.5e+x".toList).dropWhile isPadding) ∧
    numericPrefix? "-12.5".toList = numericPrefix? " \t-12.5e+x".toList ∧
      ∃ x, numericPrefix? " \t-12.5e+x".toList = some (.float x) ∧ x.Rounds true (-25 / 2) := by
  have hn : (Numeral.mk (some '-') "12".toList (some "5".toList) none).Longest
      ((" \t-12.5e+x".toList).dropWhile isPadding) :=
    (Numeral.longest_of_read? (r := "e+x".toList) rfl).1
  have hvalue : (Numeral.mk (some '-') "12".toList (some "5".toList) none).value = -25 / 2 := by
    have hdigits : digitsValue "125".toList = 125 := by decide
    calc _ = Binary64.signed true ((digitsValue "125".toList : ℚ) * 10 ^ ((0 : Int) - (1 : Nat))) :=
          rfl
      _ = -25 / 2 := by norm_num [hdigits, Binary64.signed]
  have hint : ¬∃ k : Int64,
      (Numeral.mk (some '-') "12".toList (some "5".toList) none).fraction = none ∧
      (Numeral.mk (some '-') "12".toList (some "5".toList) none).exponent = none ∧
      (Numeral.mk (some '-') "12".toList (some "5".toList) none).value = k.toInt := by
    rintro ⟨k, hfraction, -⟩
    cases hfraction
  obtain ⟨-, hfloat, hfollow, -⟩ := (numericPrefix?_spec " \t-12.5e+x".toList).2.2 _ hn
  obtain ⟨x, hx, -, hrounds⟩ := hfloat hint
  have hreach := hrounds (.inl (by decide))
  rw [hvalue] at hreach
  exact ⟨hn, hfollow [] [] (List.forall_mem_nil _) (Numeral.longest_of_read? (r := []) rfl).1,
    x, hx, hreach⟩

/-! ### Integers of any length -/

open Binary64 (InRange clamped threshold)

theorem Numeral.toNumeric_of_inRange (hfraction : n.fraction = none) (hexponent : n.exponent = none)
    (hin : InRange n.wholeValue) : n.toNumeric = .int (Int64.ofInt n.wholeValue) := by
  refine Numeral.toNumeric_eq_int_iff.2 ⟨hfraction, hexponent, ?_⟩
  rw [← Numeral.wholeValue_eq_value hfraction hexponent,
    Int64.toInt_ofInt_of_le hin.1 (Int.lt_of_le_sub_one hin.2)]

theorem Numeral.toNumeric_of_not_inRange (hfraction : n.fraction = none)
    (hexponent : n.exponent = none)
    (hout : ¬InRange n.wholeValue) : n.toNumeric = .float n.toBinary64 := by
  refine Numeral.toNumeric_eq_float fun k hk => hout ?_
  have hvalue := (Numeral.toNumeric_eq_int_iff.1 hk).2.2
  rw [← Numeral.wholeValue_eq_value hfraction hexponent, Int.cast_inj] at hvalue
  rw [hvalue]
  exact ⟨k.le_toInt, Int.le_sub_one_of_lt k.toInt_lt⟩

/-- A text that begins with an integer is that integer, drawn to the range, unless no finite double
is near to it. -/
theorem toInt_textToInt (hn : n.Longest (t.dropWhile isPadding)) (hfraction : n.fraction = none)
    (hexponent : n.exponent = none) :
    (textToInt t).toInt = if |n.value| < threshold then clamped n.wholeValue else 0 := by
  rw [textToInt, numericPrefix?_of_longest hn, ← Numeral.wholeValue_eq_value hfraction hexponent]
  by_cases hin : InRange n.wholeValue
  · rw [Numeral.toNumeric_of_inRange hfraction hexponent hin,
      if_pos (Binary64.abs_lt_threshold_of_inRange hin), Binary64.clamped_of_inRange hin]
    exact Int64.toInt_ofInt_of_le hin.1 (Int.lt_of_le_sub_one hin.2)
  · have hreach : n.InReach := by
      left
      simp [Numeral.exactExponent, hexponent]
    have hrounds := Numeral.rounds_value hn.valid hreach
    rw [← Numeral.wholeValue_eq_value hfraction hexponent] at hrounds
    rw [Numeral.toNumeric_of_not_inRange hfraction hexponent hin]
    exact hrounds.toInt_clampToInt64 hin

/-! ### Out of reach -/

/-- One, written behind a point and many zeros, with an exponent of which the last digit
does not count. -/
def manyZeros (k : Nat) : Numeral where
  sign := none
  whole := ['0']
  fraction := some (List.replicate k '0' ++ ['1'])
  exponent := some ⟨'e', none, "655360".toList⟩

theorem manyZeros_valid (k : Nat) : (manyZeros k).Valid where
  sign := by rintro c ⟨⟩
  whole := show AllDigits ['0'] by decide
  fraction := by
    rintro f ⟨⟩
    exact allDigits_append.2 ⟨allDigits_zeros k, by decide⟩
  exponent := by
    rintro e ⟨⟩
    exact ⟨.inl rfl, by rintro c ⟨⟩, by decide, by decide⟩
  ne_nil := .inl (List.cons_ne_nil _ _)

theorem digitsValue_manyZeros (k : Nat) : digitsValue (manyZeros k).digits = 1 := by
  show digitsValue (['0'] ++ (List.replicate k '0' ++ ['1'])) = 1
  rw [← List.append_assoc, digitsValue_concat, digitsValue, Nat.ofDigitChars_append,
    Nat.ofDigitChars_replicate_zero]
  simp [Nat.ofDigitChars]

theorem places_manyZeros (k : Nat) : (manyZeros k).places = k + 1 := by
  simp [Numeral.places, manyZeros]

theorem valueAt_manyZeros (k : Nat) (exponent : Int) :
    (manyZeros k).valueAt exponent = 10 ^ (exponent - (k + 1 : Nat)) := by
  rw [Numeral.valueAt, digitsValue_manyZeros, places_manyZeros, Nat.cast_one, one_mul]
  exact one_mul _

/-- The number is one and is read as zero: the last digit of the exponent is not counted. -/
theorem numericPrefix?_of_uncounted_digit :
    (manyZeros 655359).Longest ((manyZeros 655359).text.dropWhile isPadding) ∧
    (manyZeros 655359).value = 1 ∧
      ∃ x, numericPrefix? (manyZeros 655359).text = some (.float x) ∧ x.value = 0 ∧
      ¬x.Rounds false 1 := by
  obtain ⟨k, hk⟩ : ∃ k, k = 655359 := ⟨_, rfl⟩
  rw [← hk]
  have hvalid := manyZeros_valid k
  have hvalue : (manyZeros k).value = 1 := by
    rw [Numeral.value, valueAt_manyZeros, hk]
    rfl
  have hread : (manyZeros k).toBinary64 = Binary64.ofGrains false 0 := by
    have hcounted : (manyZeros k).countedExponent = 65536 := rfl
    rw [Numeral.toBinary64_eq, digitsValue_manyZeros, places_manyZeros, hcounted,
      Binary64.ofDecimal, Numeral.roundDecimal_of_small (k := 1) (by decide) (by omega)]
    rfl
  have hfloat :=
    Numeral.toNumeric_eq_float (n := manyZeros k) fun _ hint => by
      cases (Numeral.toNumeric_eq_int_iff.1 hint).1
  rw [hread] at hfloat
  have hnot : ¬(Binary64.ofGrains false 0).Rounds false 1 := by
    intro hrounds
    have hnear :=
      hrounds.nearest (by rw [abs_one]; exact Binary64.one_lt_threshold)
        (Binary64.ofGrains false Binary64.one)
        (Binary64.isFinite_ofGrains _ Binary64.one_lt_overflow)
    rw [Binary64.value_zero, Binary64.value_one] at hnear
    norm_num at hnear
  exact ⟨longest_text hvalid, hvalue, _, hfloat ▸ numericPrefix?_text hvalid,
    Binary64.value_zero false, hnot⟩

end SqlTemplate.Decimal
