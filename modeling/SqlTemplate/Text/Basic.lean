/-! Text as a list of characters, with lengths and cuts in bytes of UTF-8.
A cut keeps whole characters: it is the longest beginning that fits the limit. -/

namespace SqlTemplate

/-- A text, character by character. -/
abbrev Text := List Char

namespace Text

/-- The bytes UTF-8 needs for a text. -/
def size : Text → Nat
  | [] => 0
  | c :: r => c.utf8Size + size r

/-- The longest beginning that takes at most `limit` bytes. -/
def clip : Nat → Text → Text
  | _, [] => []
  | limit, c :: r => if c.utf8Size ≤ limit then c :: clip (limit - c.utf8Size) r else []

/-- The text from its byte `n` on, if a character begins there or the text ends. -/
def fromByte? : Nat → Text → Option Text
  | 0, t => some t
  | _, [] => none
  | n, c :: r => if c.utf8Size ≤ n then fromByte? (n - c.utf8Size) r else none

/-- The part of a text after a beginning, if the text has that beginning. -/
def after? : Text → Text → Option Text
  | [], t => some t
  | _ :: _, [] => none
  | c :: r, d :: t => if c = d then after? r t else none

/-- The texts of a list with `", "` between neighbours. -/
def joined : List Text → Text
  | [] => []
  | [t] => t
  | t :: ts => t ++ ',' :: ' ' :: joined ts

@[simp] theorem size_nil : size [] = 0 := rfl

@[simp] theorem size_cons (c : Char) (r : Text) : size (c :: r) = c.utf8Size + size r := rfl

theorem size_append (s t : Text) : size (s ++ t) = size s + size t := by
  induction s with
  | nil => simp
  | cons c r ih => simp [ih, Nat.add_assoc]

theorem joined_cons_cons (s t : Text) (ts : List Text) :
    joined (s :: t :: ts) = s ++ ',' :: ' ' :: joined (t :: ts) := rfl

theorem joined_append {ss ts : List Text} (hs : ss ≠ []) (ht : ts ≠ []) :
    joined (ss ++ ts) = joined ss ++ ',' :: ' ' :: joined ts := by
  induction ss with
  | nil => exact absurd rfl hs
  | cons s ss ih =>
    cases ss with
    | nil =>
      obtain ⟨t, ts, rfl⟩ := List.exists_cons_of_ne_nil ht
      rfl
    | cons s' ss =>
      have ih := ih (List.cons_ne_nil s' ss)
      rw [List.cons_append] at ih
      rw [List.cons_append, List.cons_append, joined_cons_cons, ih, joined_cons_cons]
      simp

theorem size_clip_le (limit : Nat) (t : Text) : size (clip limit t) ≤ limit := by
  induction t generalizing limit with
  | nil => simp [clip]
  | cons c r ih =>
    simp only [clip]
    split
    next h => have := ih (limit - c.utf8Size); simp; omega
    next => simp

/-- The text from the end of a beginning on is what follows the beginning. -/
theorem fromByte?_append (s t : Text) : fromByte? (size s) (s ++ t) = some t := by
  induction s with
  | nil => cases t <;> rfl
  | cons c s ih =>
    have hpos : c.utf8Size + size s ≠ 0 := by have := c.utf8Size_pos; omega
    rw [size_cons, List.cons_append, fromByte?]
    · rw [if_pos (Nat.le_add_right _ _), Nat.add_sub_cancel_left, ih]
    · exact hpos

theorem after?_eq_some {s t r : Text} (h : after? s t = some r) : t = s ++ r := by
  induction s generalizing t with
  | nil => simpa [after?] using h
  | cons c s ih =>
    cases t with
    | nil => simp [after?] at h
    | cons d t =>
      simp only [after?] at h
      split at h
      next hc => simp [hc, ih h]
      next => simp at h

theorem after?_append (s r : Text) : after? s (s ++ r) = some r := by
  induction s with
  | nil => rfl
  | cons c s ih => simp [after?, ih]

end Text

end SqlTemplate
