import SqlTemplate.Json.Number
import SqlTemplate.Json.Value

/-! Reading JSON. The reader is strict: no comments, no trailing commas, no control
characters in strings, escapes that stand for whole characters, and not more than 127
arrays and objects inside each other. A repeated key of an object keeps its first place
and takes the last value. -/

namespace SqlTemplate.Json

def isSpace (c : Char) : Bool :=
  c = ' ' || c = '\n' || c = '\t' || c = '\r'

def skipSpace (t : Text) : Text :=
  t.dropWhile isSpace

/-! ### Strings -/

/-- The character that a letter after a backslash stands for. -/
def unescaped? : Char → Option Char
  | '"' => some '"'
  | '\\' => some '\\'
  | '/' => some '/'
  | 'b' => some '\x08'
  | 'f' => some '\x0c'
  | 'n' => some '\n'
  | 'r' => some '\r'
  | 't' => some '\t'
  | _ => none

def hexDigit? (c : Char) : Option Nat :=
  if c.isDigit then some (c.toNat - 48)
  else if 'a' ≤ c && c ≤ 'f' then some (c.toNat - 87)
  else if 'A' ≤ c && c ≤ 'F' then some (c.toNat - 55)
  else none

/-- The number that four hexadecimal digits make. -/
def unit? (a b c d : Char) : Option Nat := do
  some (((← hexDigit? a) * 16 + (← hexDigit? b)) * 256 + (← hexDigit? c) * 16 + (← hexDigit? d))

/-- The first of two units that make one character. -/
def isHigh (n : Nat) : Bool := 0xD800 ≤ n && n < 0xDC00

/-- The second of two units that make one character. -/
def isLow (n : Nat) : Bool := 0xDC00 ≤ n && n < 0xE000

def pairChar (high low : Nat) : Char :=
  Char.ofNat (0x10000 + (high - 0xD800) * 0x400 + (low - 0xDC00))

/-- The rest of a string after its first quote, and the text after the string. -/
def readString? : Text → Option (Text × Text)
  | [] => none
  | '"' :: r => some ([], r)
  | '\\' :: 'u' :: a :: b :: c :: d :: r => do
    let n ← unit? a b c d
    if isLow n then none
    else if isHigh n then
      match r with
      | '\\' :: 'u' :: a :: b :: c :: d :: r => do
        let m ← unit? a b c d
        if isLow m then (readString? r).map fun s => (pairChar n m :: s.1, s.2) else none
      | _ => none
    else (readString? r).map fun s => (Char.ofNat n :: s.1, s.2)
  | '\\' :: c :: r => do
    let d ← unescaped? c
    (readString? r).map fun s => (d :: s.1, s.2)
  | c :: r =>
    if c = '\\' || c.toNat < 0x20 then none
    else (readString? r).map fun s => (c :: s.1, s.2)

/-! ### Documents -/

/-- Arrays and objects that may stand inside each other. -/
def maxDepth : Nat := 127

mutual

/-- The value that begins a text, and the text after it; `levels` more arrays and
objects may open. -/
def readValue? (fuel levels : Nat) (t : Text) : Option (Json × Text) :=
  match fuel with
  | 0 => none
  | fuel + 1 =>
    match skipSpace t with
    | 'n' :: 'u' :: 'l' :: 'l' :: r => some (.null, r)
    | 't' :: 'r' :: 'u' :: 'e' :: r => some (.bool true, r)
    | 'f' :: 'a' :: 'l' :: 's' :: 'e' :: r => some (.bool false, r)
    | '"' :: r => (readString? r).map fun s => (.string s.1, s.2)
    | '[' :: r =>
      if levels = 0 then none
      else match skipSpace r with
        | ']' :: r => some (.array [], r)
        | r => (readItems? fuel (levels - 1) r).map fun s => (.array s.1, s.2)
    | '\x7b' :: r =>
      if levels = 0 then none
      else match skipSpace r with
        | '\x7d' :: r => some (.object [], r)
        | r => (readMembers? fuel (levels - 1) r).map fun s => (.object (distinct s.1), s.2)
    | r => do
      let (n, r) ← readNumeral? r
      let number ← number? n
      some (.number number, r)

/-- Items up to the closing bracket. -/
def readItems? (fuel levels : Nat) (t : Text) : Option (List Json × Text) :=
  match fuel with
  | 0 => none
  | fuel + 1 => do
    let (j, r) ← readValue? fuel levels t
    match skipSpace r with
    | ']' :: r => some ([j], r)
    | ',' :: r => (readItems? fuel levels r).map fun s => (j :: s.1, s.2)
    | _ => none

/-- Members up to the closing brace. -/
def readMembers? (fuel levels : Nat) (t : Text) : Option (List (Text × Json) × Text) :=
  match fuel with
  | 0 => none
  | fuel + 1 =>
    match skipSpace t with
    | '"' :: r => do
      let (k, r) ← readString? r
      match skipSpace r with
      | ':' :: r => do
        let (j, r) ← readValue? fuel levels r
        match skipSpace r with
        | '\x7d' :: r => some ([(k, j)], r)
        | ',' :: r => (readMembers? fuel levels r).map fun s => ((k, j) :: s.1, s.2)
        | _ => none
      | _ => none
    | _ => none

end

/-- The document a text holds, with nothing but white space around it. Every step of the reader
takes a character at least, so its fuel lasts. -/
def read? (t : Text) : Option Json := do
  let (j, r) ← readValue? (2 * t.length + 2) maxDepth t
  if (skipSpace r).isEmpty then some j else none

end SqlTemplate.Json
