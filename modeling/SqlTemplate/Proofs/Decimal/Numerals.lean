import Mathlib.Data.List.TakeWhile
import SqlTemplate.Decimal.Numeral

/-! The grammar of numerals, `[+-]? (D+ (. D*)? | . D+) ([eE] [+-]? D+)?`, and their reading. A
numeral is kept in its parts; `text` puts them together and `Valid` is the grammar. What
reading takes from a text is the longest beginning that is a numeral, in the parts it has. -/

namespace SqlTemplate.Decimal

/-- A sign, where there is one, is a plus or a minus. -/
def IsSign (sign : Option Char) : Prop := ∀ c ∈ sign, c = '+' ∨ c = '-'

def AllDigits (t : Text) : Prop := ∀ c ∈ t, c.isDigit

instance : DecidablePred AllDigits := fun _ => decidable_of_iff _ List.all_eq_true

theorem allDigits_append {s t : Text} : AllDigits (s ++ t) ↔ AllDigits s ∧ AllDigits t :=
  List.forall_mem_append

theorem allDigits_zeros (k : Nat) : AllDigits (List.replicate k '0') := by
  intro c hc
  rw [List.eq_of_mem_replicate hc]
  rfl

namespace Exponent

def text (e : Exponent) : Text := e.mark :: (e.sign.toList ++ e.digits)

structure Valid (e : Exponent) : Prop where
  mark : e.mark = 'e' ∨ e.mark = 'E'
  sign : IsSign e.sign
  digits : AllDigits e.digits
  ne_nil : e.digits ≠ []

end Exponent

namespace Numeral

/-- The point with the digits after it. -/
def fractionText : Option Text → Text
  | some f => '.' :: f
  | none => []

def exponentText : Option Exponent → Text
  | some e => e.text
  | none => []

def text (n : Numeral) : Text :=
  n.sign.toList ++ (n.whole ++ (fractionText n.fraction ++ exponentText n.exponent))

/-- Before the point or after it there is a digit, and an exponent has one. -/
structure Valid (n : Numeral) : Prop where
  sign : IsSign n.sign
  whole : AllDigits n.whole
  fraction : ∀ f ∈ n.fraction, AllDigits f
  exponent : ∀ e ∈ n.exponent, e.Valid
  ne_nil : n.whole ≠ [] ∨ ∃ f, n.fraction = some f ∧ f ≠ []

/-- The longest beginning of a text that is a numeral. -/
structure Longest (n : Numeral) (t : Text) : Prop where
  valid : n.Valid
  isPrefix : n.text <+: t
  longest : ∀ m : Numeral, m.Valid → m.text <+: t → m.text.length ≤ n.text.length

/-- No numeral goes on into the text: it begins with no digit, point or exponent mark. -/
def Stops (t : Text) : Prop := ∀ c ∈ t.head?, c.isDigit = false ∧ c ≠ '.' ∧ c ≠ 'e' ∧ c ≠ 'E'

end Numeral

open Numeral (Stops fractionText exponentText)

variable {t u r whole digits : Text} {sign : Option Char}

/-! ### Signs and digits -/

theorem readSign_some {c : Char} (h : c = '+' ∨ c = '-') : readSign (c :: t) = (some c, t) := by
  simp [readSign, h]

theorem readSign_none (h : ∀ c ∈ t.head?, c ≠ '+' ∧ c ≠ '-') : readSign t = (none, t) := by
  cases t with
  | nil => rfl
  | cons c t =>
    obtain ⟨hplus, hminus⟩ := h c rfl
    simp [readSign, hplus, hminus]

theorem readSign_append (hs : IsSign sign) (h : ∀ c ∈ t.head?, c ≠ '+' ∧ c ≠ '-') :
    readSign (sign.toList ++ t) = (sign, t) := by
  cases sign with
  | none => exact readSign_none h
  | some c => exact readSign_some (hs c rfl)

theorem readSign_spec (h : readSign t = (sign, r)) : IsSign sign ∧ t = sign.toList ++ r := by
  cases t with
  | nil =>
    cases h
    exact ⟨by rintro c ⟨⟩, rfl⟩
  | cons c t =>
    simp only [readSign] at h
    split at h
    next hc =>
      cases h
      refine ⟨?_, rfl⟩
      rintro x ⟨⟩
      simpa using hc
    next =>
      cases h
      exact ⟨by rintro c ⟨⟩, rfl⟩

theorem not_sign_of_isDigit {c : Char} (h : c.isDigit) : c ≠ '+' ∧ c ≠ '-' := by
  constructor <;> rintro rfl <;> exact absurd h (by decide)

theorem readDigits_append (h : AllDigits digits) (t : Text) :
    readDigits (digits ++ t) = (digits ++ (readDigits t).1, (readDigits t).2) := by
  simp only [readDigits]
  rw [List.takeWhile_append_of_pos h, List.dropWhile_append_of_pos h]

theorem readDigits_none (h : ∀ c ∈ t.head?, c.isDigit = false) : readDigits t = ([], t) := by
  cases t with
  | nil => rfl
  | cons c t => simp [readDigits, h c rfl]

/-- Digits are read up to a text that begins with none. -/
theorem readDigits_stop (h : AllDigits digits) (hstop : ∀ c ∈ t.head?, c.isDigit = false) :
    readDigits (digits ++ t) = (digits, t) := by
  rw [readDigits_append h, readDigits_none hstop, List.append_nil]

theorem allDigits_readDigits (t : Text) :
    AllDigits (readDigits t).1 := fun _ hc => List.mem_takeWhile_imp hc

theorem readDigits_fst_append_snd (t : Text) : (readDigits t).1 ++ (readDigits t).2 = t :=
  List.takeWhile_append_dropWhile

theorem readDigits_spec (h : readDigits t = (digits, r)) : AllDigits digits ∧ t = digits ++ r := by
  cases h
  exact ⟨allDigits_readDigits t, (readDigits_fst_append_snd t).symm⟩

/-! ### The point -/

theorem readFraction_point {f : Text} (hf : AllDigits f) (hne : whole ≠ [] ∨ f ≠ []) (t : Text) :
    readFraction whole ('.' :: (f ++ t)) = (some (f ++ (readDigits t).1), (readDigits t).2) := by
  have hsome : (whole.isEmpty && (f ++ (readDigits t).1).isEmpty) = false := by
    rcases hne with h | h <;> simp [h]
  simp only [readFraction, readDigits_append hf, hsome, Bool.false_eq_true, if_false]

theorem readFraction_none (h : ∀ c ∈ t.head?, c ≠ '.') : readFraction whole t = (none, t) := by
  unfold readFraction
  split
  next => exact absurd rfl (h '.' rfl)
  next => rfl

theorem readFraction_spec {fraction : Option Text} (h : readFraction whole t = (fraction, r)) :
    t = fractionText fraction ++ r ∧ ∀ f ∈ fraction, AllDigits f ∧ (whole ≠ [] ∨ f ≠ []) := by
  unfold readFraction at h
  split at h
  next t =>
    simp only at h
    split at h
    next =>
      cases h
      exact ⟨rfl, by rintro f ⟨⟩⟩
    next hne =>
      cases h
      refine ⟨?_, ?_⟩
      · rw [fractionText, List.cons_append, readDigits_fst_append_snd]
      · rintro f ⟨⟩
        refine ⟨allDigits_readDigits t, ?_⟩
        rwa [Bool.and_eq_true, List.isEmpty_iff, List.isEmpty_iff, not_and_or] at hne
  next =>
    cases h
    exact ⟨rfl, by rintro f ⟨⟩⟩

/-! ### The exponent -/

theorem readExponent_text {e : Exponent} (he : e.Valid) (t : Text) :
    readExponent (e.text ++ t) =
      (some { e with digits := e.digits ++ (readDigits t).1 }, (readDigits t).2) := by
  have hhead : ∀ c ∈ (e.digits ++ t).head?, c ≠ '+' ∧ c ≠ '-' := by
    obtain ⟨d, ds, hd⟩ := List.exists_cons_of_ne_nil he.ne_nil
    rw [hd]
    rintro c ⟨⟩
    exact not_sign_of_isDigit (he.digits d (by simp [hd]))
  have hmark : (decide (e.mark = 'e') || decide (e.mark = 'E')) = true := by simpa using he.mark
  simp only [Exponent.text, List.cons_append, List.append_assoc, readExponent,
    readSign_append he.sign hhead, readDigits_append he.digits, hmark]
  simp [he.ne_nil]

theorem readExponent_none (h : ∀ c ∈ t.head?, c ≠ 'e' ∧ c ≠ 'E') : readExponent t = (none, t) := by
  cases t with
  | nil => rfl
  | cons c t =>
    obtain ⟨he, hE⟩ := h c rfl
    simp [readExponent, he, hE]

theorem readExponent_spec {exponent : Option Exponent} (h : readExponent t = (exponent, r)) :
    t = exponentText exponent ++ r ∧ ∀ e ∈ exponent, e.Valid := by
  cases t with
  | nil =>
    cases h
    exact ⟨rfl, by rintro e ⟨⟩⟩
  | cons c t =>
    simp only [readExponent] at h
    split at h
    next hc =>
      rw [Bool.and_eq_true, Bool.not_eq_true', List.isEmpty_eq_false_iff] at hc
      obtain ⟨hsign, ht⟩ := readSign_spec (Prod.eta (readSign t)).symm
      have hdigits := readDigits_fst_append_snd (readSign t).2
      cases h
      refine ⟨?_, ?_⟩
      · rw [exponentText, Exponent.text, List.cons_append, List.append_assoc, hdigits, ← ht]
      · rintro e ⟨⟩
        exact ⟨by simpa using hc.1, hsign, allDigits_readDigits _, hc.2⟩
    next =>
      cases h
      exact ⟨rfl, by rintro e ⟨⟩⟩

namespace Numeral

variable {m n : Numeral}

/-! ### Whole numerals -/

/-- Reading goes part by part, and fails only where there is no digit around a point. -/
theorem read?_eq_some_iff_parts :
    read? t = some (n, r) ↔
      ∃ t₁ t₂ t₃, readSign t = (n.sign, t₁) ∧ readDigits t₁ = (n.whole, t₂) ∧
        readFraction n.whole t₂ = (n.fraction, t₃) ∧ readExponent t₃ = (n.exponent, r) ∧
        (n.whole ≠ [] ∨ n.fraction ≠ none) := by
  constructor
  · intro h
    simp only [read?] at h
    split at h
    next => cases h
    next hne =>
      rw [Bool.and_eq_true, List.isEmpty_iff, Option.isNone_iff_eq_none, not_and_or] at hne
      cases h
      exact ⟨_, _, _, rfl, rfl, rfl, rfl, hne⟩
  · rintro ⟨t₁, t₂, t₃, hsign, hwhole, hfraction, hexponent, hne⟩
    have hne : ¬(n.whole.isEmpty && n.fraction.isNone) = true := by
      rwa [Bool.and_eq_true, List.isEmpty_iff, Option.isNone_iff_eq_none, not_and_or]
    simp only [read?, hsign, hwhole, hfraction, hexponent, if_neg hne]

/-- What is read is a numeral, and the text begins with it. -/
theorem valid_of_read? (h : read? t = some (n, r)) : n.Valid ∧ t = n.text ++ r := by
  obtain ⟨t₁, t₂, t₃, hsign, hwhole, hfraction, hexponent, hne⟩ := read?_eq_some_iff_parts.1 h
  obtain ⟨hs, rfl⟩ := readSign_spec hsign
  obtain ⟨hw, rfl⟩ := readDigits_spec hwhole
  obtain ⟨rfl, hf⟩ := readFraction_spec hfraction
  obtain ⟨rfl, he⟩ := readExponent_spec hexponent
  refine ⟨⟨hs, hw, fun f hn => (hf f hn).1, he, ?_⟩, ?_⟩
  · by_cases hnil : n.whole = []
    · obtain ⟨f, hn⟩ := Option.ne_none_iff_exists'.1 (hne.resolve_left (not_not.2 hnil))
      exact .inr ⟨f, hn, (hf f hn).2.resolve_left (not_not.2 hnil)⟩
    · exact .inl hnil
  · simp only [text, List.append_assoc]

/-- Behind the sign of a numeral stands a digit or a point. -/
theorem Valid.head_ne_sign (hn : n.Valid) (u : Text) :
    ∀ c ∈ (n.whole ++ (fractionText n.fraction ++ u)).head?, c ≠ '+' ∧ c ≠ '-' := by
  cases hw : n.whole with
  | cons d ds =>
    rintro c ⟨⟩
    exact not_sign_of_isDigit (hn.whole d (by simp [hw]))
  | nil =>
    obtain ⟨f, hf, -⟩ := hn.ne_nil.resolve_left (not_not.2 hw)
    rw [hf]
    rintro c ⟨⟩
    decide

theorem Valid.whole_or_fraction (hn : n.Valid) : n.whole ≠ [] ∨ n.fraction ≠ none :=
  hn.ne_nil.imp_right fun ⟨f, hf, _⟩ => by simp [hf]

theorem head_exponentText {e : Exponent} (he : e.Valid) (u : Text) :
    ∀ c ∈ (e.text ++ u).head?, c.isDigit = false ∧ c ≠ '.' := by
  rintro c ⟨⟩
  rcases he.mark with h | h <;> rw [h] <;> decide

theorem text_append (sign : Option Char) (whole : Text) (fraction : Option Text)
    (exponent : Option Exponent) (u : Text) :
    (Numeral.mk sign whole fraction exponent).text ++ u =
      sign.toList ++ (whole ++ (fractionText fraction ++ (exponentText exponent ++ u))) := by
  simp only [text, List.append_assoc]

/-! The part that ends a numeral takes the digits that follow the numeral; the parts before it are
read as they are. -/

section Following

variable {fraction : Option Text}

theorem read?_append_of_exponent {e : Exponent}
    (hn : (Numeral.mk sign whole fraction (some e)).Valid) (u : Text) :
    read? ((Numeral.mk sign whole fraction (some e)).text ++ u) =
      some (⟨sign, whole, fraction, some { e with digits := e.digits ++ (readDigits u).1 }⟩,
        (readDigits u).2) := by
  have he := hn.exponent e rfl
  have hhead := head_exponentText he u
  have hwhole : readDigits (whole ++ (fractionText fraction ++ (e.text ++ u))) =
      (whole, fractionText fraction ++ (e.text ++ u)) := by
    refine readDigits_stop hn.whole ?_
    cases fraction with
    | none => exact fun c hc => (hhead c hc).1
    | some f => rintro c ⟨⟩; rfl
  have hfraction : readFraction whole (fractionText fraction ++ (e.text ++ u)) =
      (fraction, e.text ++ u) := by
    cases fraction with
    | none => exact readFraction_none fun c hc => (hhead c hc).2
    | some f =>
      have hpoint :=
        readFraction_point (hn.fraction f rfl) (hn.ne_nil.imp_right (by simp)) (e.text ++ u)
      rwa [readDigits_none fun c hc => (hhead c hc).1, List.append_nil] at hpoint
  rw [text_append]
  exact read?_eq_some_iff_parts.2 ⟨_, _, _, readSign_append hn.sign (hn.head_ne_sign _),
    hwhole, hfraction, readExponent_text he u, hn.whole_or_fraction⟩

theorem read?_append_of_fraction {f : Text}
    (hn : (Numeral.mk sign whole (some f) none).Valid) (u : Text) :
    read? ((Numeral.mk sign whole (some f) none).text ++ u) =
      some (⟨sign, whole, some (f ++ (readDigits u).1), (readExponent (readDigits u).2).1⟩,
        (readExponent (readDigits u).2).2) := by
  have hwhole : readDigits (whole ++ '.' :: (f ++ u)) = (whole, '.' :: (f ++ u)) :=
    readDigits_stop hn.whole (by rintro c ⟨⟩; rfl)
  have hpoint := readFraction_point (hn.fraction f rfl) (hn.ne_nil.imp_right (by simp)) u
  rw [text_append]
  exact read?_eq_some_iff_parts.2 ⟨_, _, _, readSign_append hn.sign (hn.head_ne_sign _),
    hwhole, hpoint, rfl, .inr (by simp)⟩

theorem read?_append_of_whole (hn : (Numeral.mk sign whole none none).Valid) (u : Text) :
    read? ((Numeral.mk sign whole none none).text ++ u) =
      let digits := whole ++ (readDigits u).1
      let point := readFraction digits (readDigits u).2
      some (⟨sign, digits, point.1, (readExponent point.2).1⟩, (readExponent point.2).2) := by
  have hne : whole ++ (readDigits u).1 ≠ [] := by
    simp [hn.whole_or_fraction.resolve_right (by simp)]
  rw [text_append]
  exact read?_eq_some_iff_parts.2 ⟨_, _, _, readSign_append hn.sign (hn.head_ne_sign _),
    readDigits_append hn.whole u, rfl, rfl, .inl hne⟩

end Following

/-- A numeral in front of a text is read, if not as it is, then with more of the text. -/
theorem exists_read?_text_append (hn : n.Valid) (u : Text) :
    ∃ m r, read? (n.text ++ u) = some (m, r) ∧ n.text.length ≤ m.text.length := by
  obtain ⟨sign, whole, fraction, exponent⟩ := n
  cases exponent with
  | some e =>
    refine ⟨_, _, read?_append_of_exponent hn u, ?_⟩
    simp only [text, exponentText, Exponent.text, List.length_append, List.length_cons]
    omega
  | none =>
    cases fraction with
    | some f =>
      refine ⟨_, _, read?_append_of_fraction hn u, ?_⟩
      simp only [text, fractionText, exponentText, List.length_append, List.length_cons,
        List.length_nil]
      omega
    | none =>
      refine ⟨_, _, read?_append_of_whole hn u, ?_⟩
      simp only [text, fractionText, exponentText, List.length_append, List.length_nil]
      omega

/-- A numeral reads back from its text in front of whatever does not go on with it. -/
theorem read?_text_append (hn : n.Valid) (hu : Stops u) : read? (n.text ++ u) = some (n, u) := by
  obtain ⟨sign, whole, fraction, exponent⟩ := n
  have hdigits : readDigits u = ([], u) := readDigits_none fun c hc => (hu c hc).1
  have hpoint (w : Text) : readFraction w u = (none, u) :=
    readFraction_none fun c hc => (hu c hc).2.1
  have hexponent : readExponent u = (none, u) := readExponent_none fun c hc => (hu c hc).2.2
  cases exponent with
  | some e => simp [read?_append_of_exponent hn, hdigits]
  | none =>
    cases fraction with
    | some f => simp [read?_append_of_fraction hn, hdigits, hexponent]
    | none => simp [read?_append_of_whole hn, hdigits, hpoint, hexponent]

theorem stops_nil : Stops [] := by rintro c ⟨⟩

theorem read?_text (hn : n.Valid) : read? n.text = some (n, []) := by
  simpa using read?_text_append hn stops_nil

/-- The grammar is unambiguous. -/
theorem text_injective (hm : m.Valid) (hn : n.Valid) (h : m.text = n.text) : m = n := by
  have hread := read?_text hm
  rw [h, read?_text hn] at hread
  cases hread
  rfl

/-! ### The longest numeral -/

theorem longest_of_read? (h : read? t = some (n, r)) : n.Longest t ∧ t = n.text ++ r := by
  obtain ⟨hn, ht⟩ := valid_of_read? h
  refine ⟨⟨hn, ⟨r, ht.symm⟩, ?_⟩, ht⟩
  rintro m hm ⟨u, hu⟩
  obtain ⟨k, r', hk, hle⟩ := exists_read?_text_append hm u
  rw [hu, h] at hk
  cases hk
  exact hle

theorem Longest.unique (hm : m.Longest t) (hn : n.Longest t) : m = n := by
  have hlength :=
    Nat.le_antisymm (hn.longest m hm.valid hm.isPrefix) (hm.longest n hn.valid hn.isPrefix)
  have hbegins := List.prefix_of_prefix_length_le hm.isPrefix hn.isPrefix (Nat.le_of_eq hlength)
  exact text_injective hm.valid hn.valid (hbegins.eq_of_length hlength)

theorem read?_eq_none_iff : read? t = none ↔ ∀ n : Numeral, n.Valid → ¬n.text <+: t := by
  constructor
  · rintro h n hn ⟨u, rfl⟩
    obtain ⟨m, r, hm, -⟩ := exists_read?_text_append hn u
    rw [h] at hm
    cases hm
  · intro h
    cases hread : read? t with
    | none => rfl
    | some p =>
      obtain ⟨n, r⟩ := p
      obtain ⟨hn, ht⟩ := valid_of_read? hread
      exact absurd ⟨r, ht.symm⟩ (h n hn)

/-- Reading takes the longest numeral that begins a text, and nothing else. -/
theorem read?_eq_some_iff : read? t = some (n, r) ↔ n.Longest t ∧ t = n.text ++ r := by
  constructor
  · exact longest_of_read?
  · rintro ⟨hn, ht⟩
    cases hread : read? t with
    | none => exact absurd hn.isPrefix (read?_eq_none_iff.1 hread n hn.valid)
    | some p =>
      obtain ⟨m, r'⟩ := p
      obtain ⟨hm, ht'⟩ := longest_of_read? hread
      obtain rfl := hm.unique hn
      rw [ht, List.append_cancel_left_eq] at ht'
      rw [ht']

end Numeral

end SqlTemplate.Decimal
