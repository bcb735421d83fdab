import SqlTemplate.Text.Basic
import SqlTemplate.Toml.Scalar

/-! TOML strings: on one line or on several, with escapes between double quotes and
without between single ones. Strings on several lines drop a line break right after
their opening, and a backslash before a line break takes the white space after it. -/

namespace SqlTemplate.Toml

/-- Characters that may stand for themselves on a line: all but control characters, tabs allowed. -/
def isPlain (c : Char) : Bool :=
  c = '\t' || (0x20 ≤ c.toNat && c.toNat ≠ 0x7F)

/-- The text after a line break, if the text begins with one. -/
def afterBreak? : Text → Option Text
  | '\n' :: r => some r
  | '\r' :: '\n' :: r => some r
  | _ => none

/-- The character that hexadecimal digits stand for. -/
def charOf? (digits : Text) : Option Char :=
  let n := ofBase 16 digits
  if digits.all isHexDigit && n.isValidChar then some (Char.ofNat n) else none

/-- The character of exactly `width` hexadecimal digits, and the text after them. -/
def readCode? (width : Nat) (t : Text) : Option (Char × Text) :=
  if width ≤ t.length then (charOf? (t.take width)).map (·, t.drop width) else none

/-- The escape after a backslash: its character and the text after it. -/
def readEscape? : Text → Option (Char × Text)
  | 'b' :: r => some ('\x08', r)
  | 't' :: r => some ('\t', r)
  | 'n' :: r => some ('\n', r)
  | 'f' :: r => some ('\x0c', r)
  | 'r' :: r => some ('\r', r)
  | 'e' :: r => some ('\x1b', r)
  | '"' :: r => some ('"', r)
  | '\\' :: r => some ('\\', r)
  | 'x' :: r => readCode? 2 r
  | 'u' :: r => readCode? 4 r
  | 'U' :: r => readCode? 8 r
  | _ => none

theorem readCode?_length {width : Nat} {t r : Text} {c : Char}
    (h : readCode? width t = some (c, r)) : r.length ≤ t.length := by
  simp only [readCode?, Option.ite_none_right_eq_some, Option.map_eq_some_iff, Prod.mk.injEq] at h
  obtain ⟨_, _, _, _, rfl⟩ := h
  simp

theorem readEscape?_length {t r : Text} {c : Char} (h : readEscape? t = some (c, r)) :
    r.length < t.length := by
  unfold readEscape? at h
  split at h
  case h_12 => simp at h
  case h_9 | h_10 | h_11 => exact Nat.lt_succ_of_le (readCode?_length h)
  all_goals
    obtain ⟨_, rfl⟩ := Prod.mk.injEq .. ▸ Option.some.injEq .. ▸ h
    simp

/-- A string on one line after its opening double quote. -/
def readBasic? (t : Text) : Option (Text × Text) :=
  match t with
  | [] => none
  | '"' :: r => some ([], r)
  | '\\' :: r =>
    match _h : readEscape? r with
    | none => none
    | some (c, s) => (readBasic? s).map fun u => (c :: u.1, u.2)
  | c :: r => if isPlain c then (readBasic? r).map fun u => (c :: u.1, u.2) else none
termination_by t.length
decreasing_by
  · have := readEscape?_length _h
    simp; omega
  · simp

/-- A string on one line after its opening single quote. -/
def readLiteral? : Text → Option (Text × Text)
  | [] => none
  | '\'' :: r => some ([], r)
  | c :: r => if isPlain c then (readLiteral? r).map fun u => (c :: u.1, u.2) else none

/-- A string on several lines after its three double quotes. Up to two quotes may stand before the
closing three. While `trimming`, white space is dropped. -/
def readLongBasic? (trimming : Bool) (t : Text) : Option (Text × Text) :=
  match t with
  | [] => none
  | '"' :: '"' :: '"' :: '"' :: '"' :: r => some (['"', '"'], r)
  | '"' :: '"' :: '"' :: '"' :: r => some (['"'], r)
  | '"' :: '"' :: '"' :: r => some ([], r)
  | '\\' :: r =>
    if (afterBreak? (r.dropWhile isBlank)).isSome then readLongBasic? true r
    else match _h : readEscape? r with
      | none => none
      | some (c, s) => (readLongBasic? false s).map fun u => (c :: u.1, u.2)
  | '\r' :: '\n' :: r =>
    if trimming then readLongBasic? true r
    else (readLongBasic? false r).map fun u => ('\r' :: '\n' :: u.1, u.2)
  | c :: r =>
    if trimming && (isBlank c || c = '\n') then readLongBasic? true r
    else if isPlain c || c = '\n' then (readLongBasic? false r).map fun u => (c :: u.1, u.2)
    else none
termination_by t.length
decreasing_by
  · simp
  · have := readEscape?_length _h
    simp; omega
  all_goals (simp +arith)

/-- A string on several lines after its three single quotes. -/
def readLongLiteral? : Text → Option (Text × Text)
  | [] => none
  | '\'' :: '\'' :: '\'' :: '\'' :: '\'' :: r => some (['\'', '\''], r)
  | '\'' :: '\'' :: '\'' :: '\'' :: r => some (['\''], r)
  | '\'' :: '\'' :: '\'' :: r => some ([], r)
  | '\r' :: '\n' :: r => (readLongLiteral? r).map fun u => ('\r' :: '\n' :: u.1, u.2)
  | c :: r => if isPlain c || c = '\n' then (readLongLiteral? r).map fun u =>
      (c :: u.1, u.2) else none

/-- The text without the line break it begins with. -/
def dropBreak (t : Text) : Text := (afterBreak? t).getD t

/-- The string that begins a text, of any kind. -/
def readString? : Text → Option (Text × Text)
  | '"' :: '"' :: '"' :: r => readLongBasic? false (dropBreak r)
  | '"' :: r => readBasic? r
  | '\'' :: '\'' :: '\'' :: r => readLongLiteral? (dropBreak r)
  | '\'' :: r => readLiteral? r
  | _ => none

end SqlTemplate.Toml
