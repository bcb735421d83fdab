import SqlTemplate.Text.Basic

/-! Texts and their bytes. Decoding is strict: bytes that no text encodes to
have no text. -/

namespace SqlTemplate.Text

def encode (t : Text) : ByteArray :=
  (String.ofList t).toUTF8

def decode? (bytes : ByteArray) : Option Text :=
  (String.fromUTF8? bytes).map String.toList

theorem encode_append (s t : Text) : encode (s ++ t) = encode s ++ encode t := by
  simp [encode]

theorem size_encode (t : Text) : (encode t).size = size t := by
  induction t with
  | nil => rfl
  | cons c r ih =>
    have hc : (encode [c]).size = c.utf8Size := by simp [encode, List.utf8Encode_singleton]
    rw [← List.singleton_append, encode_append, ByteArray.size_append, hc, ih, size_append]
    rfl

theorem decode?_encode (t : Text) : decode? t.encode = some t := by
  have hutf8 : String.fromUTF8? (String.ofList t).toUTF8 = some (String.ofList t) :=
    dif_pos (String.ofList t).isValidUTF8
  rw [decode?, encode, hutf8, Option.map_some, String.toList_ofList]

theorem decode?_eq_some_iff {bytes : ByteArray} {t : Text} :
    decode? bytes = some t ↔ bytes = t.encode := by
  constructor
  · intro h
    obtain ⟨s, hs, rfl⟩ := Option.map_eq_some_iff.1 h
    unfold String.fromUTF8? at hs
    split at hs
    next =>
      cases hs
      rw [encode, String.ofList_toList]
      rfl
    next => cases hs
  · rintro rfl
    exact decode?_encode t

end SqlTemplate.Text
