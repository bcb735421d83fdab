import Mathlib.Data.Nat.Find
import Mathlib.Order.Bounds.Basic
import SqlTemplate.Text.Utf8

/-! Boundaries between characters, seen in the bytes of a text. Whether a character begins at a byte
shows in this byte alone, so a boundary within a limit can be found by going back from the limit
byte by byte. A text that is clipped character by character is cut at the same place: at the last
boundary within the limit. As no character takes more than four bytes, this place is at most three
bytes before the limit. -/

namespace SqlTemplate.Text

/-- A character begins at byte `n`, or the bytes end there. -/
def IsBoundary (bytes : ByteArray) (n : Nat) : Prop :=
  if h : n < bytes.size then bytes[n].IsUTF8FirstByte else n = bytes.size

instance (bytes : ByteArray) : DecidablePred (IsBoundary bytes) :=
  fun n =>
  inferInstanceAs
  (Decidable (if h : n < bytes.size then bytes[n].IsUTF8FirstByte else n = bytes.size))

/-- The last boundary at or before a byte. The way back goes byte by byte and ends at the first
byte at the latest. -/
def lastBoundary (bytes : ByteArray) (limit : Nat) : Nat :=
  Nat.findGreatest (IsBoundary bytes) limit

/-- A text is the longest beginning of another one that takes at most `limit` bytes and ends between
characters: it has the bytes up to the last boundary within the limit. -/
structure LongestFit (limit : Nat) (t cut : Text) : Prop where
  bytes : encode cut = (encode t).extract 0 (encode cut).size
  greatest : IsGreatest {n | IsBoundary (encode t) n ∧ n ≤ limit} (encode cut).size

/-! ### Boundaries -/

theorem encode_injective {s t : Text} (h : encode s = encode t) : s = t := by
  have hdecode := congrArg decode? h
  rwa [decode?_encode, decode?_encode, Option.some_inj] at hdecode

theorem extract_encode_of_isPrefix {s t : Text} (h : s <+: t) :
    (encode t).extract 0 (size s) = encode s := by
  obtain ⟨r, rfl⟩ := h
  rw [encode_append, ByteArray.extract_append_eq_left (size_encode s).symm]

/-- A byte position is a boundary for the bytes if it is one for the string that has them. -/
theorem isBoundary_encode_iff_isValid {t : Text} {n : Nat} :
    IsBoundary (encode t) n ↔ (String.Pos.Raw.mk n).IsValid (String.ofList t) := by
  rw [String.Pos.Raw.isValid_iff_isUTF8FirstByte, IsBoundary]
  split
  next hlt =>
    constructor
    · exact fun hfirst => .inr ⟨hlt, hfirst⟩
    · rintro (hn | ⟨_, hfirst⟩)
      · have hsize : n = (encode t).size := congrArg String.Pos.Raw.byteIdx hn
        omega
      · exact hfirst
  next hge =>
    constructor
    · exact fun hn => .inl (String.Pos.Raw.ext hn)
    · rintro (hn | ⟨hlt, _⟩)
      · exact congrArg String.Pos.Raw.byteIdx hn
      · exact absurd hlt hge

/-- The first byte of a character is unlike its other bytes: the boundaries are where the
text comes apart. -/
theorem isBoundary_encode_iff {t : Text} {n : Nat} :
    IsBoundary (encode t) n ↔ ∃ s r, t = s ++ r ∧ size s = n := by
  have hsize (s : Text) : (String.ofList s).utf8ByteSize = size s := size_encode s
  rw [isBoundary_encode_iff_isValid, String.Pos.Raw.isValid_ofList]
  constructor
  · rintro ⟨i, hi⟩
    exact ⟨t.take i, t.drop i, (List.take_append_drop i t).symm, by rw [← hsize, ← hi]⟩
  · rintro ⟨s, r, rfl, hn⟩
    exact ⟨s.length, by rw [List.take_left, hsize, hn]⟩

/-! ### Clipping -/

/-- Clipping leaves a beginning. -/
theorem clip_isPrefix (limit : Nat) (t : Text) : clip limit t <+: t := by
  induction t generalizing limit with
  | nil => exact List.nil_prefix
  | cons c r ih =>
    rw [clip]
    split
    next => exact List.cons_prefix_cons.2 ⟨rfl, ih _⟩
    next => exact List.nil_prefix

/-- Every beginning that fits is in the clipped text. -/
theorem isPrefix_clip {limit : Nat} {s : Text} (h : size s ≤ limit) (r : Text) :
    s <+: clip limit (s ++ r) := by
  induction s generalizing limit with
  | nil => exact List.nil_prefix
  | cons c s ih =>
    rw [size_cons] at h
    rw [List.cons_append, clip, if_pos (by omega)]
    exact List.cons_prefix_cons.2 ⟨rfl, ih (by omega)⟩

theorem size_le_of_isPrefix {s t : Text} (h : s <+: t) : size s ≤ size t := by
  obtain ⟨r, rfl⟩ := h
  rw [size_append]
  omega

theorem longestFit_clip (limit : Nat) (t : Text) : LongestFit limit t (clip limit t) := by
  constructor
  · rw [size_encode, extract_encode_of_isPrefix (clip_isPrefix limit t)]
  · rw [size_encode]
    constructor
    · obtain ⟨r, hr⟩ := clip_isPrefix limit t
      exact ⟨isBoundary_encode_iff.2 ⟨clip limit t, r, hr.symm, rfl⟩, size_clip_le limit t⟩
    · rintro n ⟨hn, hlimit⟩
      obtain ⟨s, r, rfl, rfl⟩ := isBoundary_encode_iff.1 hn
      exact size_le_of_isPrefix (isPrefix_clip hlimit r)

theorem LongestFit.unique {limit : Nat} {t a b : Text} (ha : LongestFit limit t a)
    (hb : LongestFit limit t b) : a = b := by
  have hsize := ha.greatest.unique hb.greatest
  exact encode_injective (by rw [ha.bytes, hb.bytes, hsize])

theorem longestFit_iff {limit : Nat} {t cut : Text} : LongestFit limit t cut ↔ clip limit t = cut :=
  ⟨(longestFit_clip limit t).unique, fun h => h ▸ longestFit_clip limit t⟩

/-- Going back byte by byte from the limit ends where the clipped text does. -/
theorem LongestFit.lastBoundary_eq {limit : Nat} {t cut : Text} (h : LongestFit limit t cut) :
    lastBoundary (encode t) limit = (encode cut).size := by
  -- A boundary after the cut and within the limit would be greater than the greatest one.
  refine Nat.findGreatest_eq_iff.2 ⟨h.greatest.1.2, fun _ => h.greatest.1.1,
    fun n hlt hn hboundary => ?_⟩
  have hle := h.greatest.2 ⟨hboundary, hn⟩
  omega

/-- What is cut off begins with a character that does not fit. -/
theorem lt_size_clip_add {limit : Nat} {t r : Text} {c : Char} (h : clip limit t ++ c :: r = t) :
    limit < size (clip limit t) + c.utf8Size := by
  by_contra hover
  have hsize : size (clip limit t ++ [c]) = size (clip limit t) + c.utf8Size := by
    rw [size_append]; rfl
  have hfits : size (clip limit t ++ [c]) ≤ limit := by omega
  have hle := size_le_of_isPrefix (isPrefix_clip hfits r)
  rw [List.append_assoc, List.singleton_append, h] at hle
  have hpos := c.utf8Size_pos
  omega

/-- Where a text is cut, at most three bytes of the limit are left unused. -/
theorem limit_le_size_clip {limit : Nat} {t : Text} (h : limit < size t) :
    limit ≤ size (clip limit t) + 3 := by
  obtain ⟨r, hr⟩ := clip_isPrefix limit t
  cases r with
  | nil =>
    -- Nothing is cut off, so the whole text would fit.
    have hfits := size_clip_le limit t
    rw [← List.append_nil (clip limit t), hr] at hfits
    omega
  | cons c r =>
    have hover := lt_size_clip_add hr
    have hsize := c.utf8Size_le_four
    omega

end SqlTemplate.Text
