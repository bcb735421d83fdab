import SqlTemplate.Toml.Value
import SqlTemplate.Decimal.Numeral

/-! TOML values that are one word: booleans, integers in four bases, floats and moments
in time. A word is taken whole; the character after its first digits says what it is.
The digits of an integer with underscores are looked at only where its value is. -/

namespace SqlTemplate.Toml

/-! ### Digits -/

/-- The value of a digit in the bases up to sixteen. -/
def digitValue (c : Char) : Nat :=
  if c.isDigit then c.toNat - 48 else c.toLower.toNat - 87

def isHexDigit (c : Char) : Bool :=
  c.isDigit || ('a' ≤ c && c ≤ 'f') || ('A' ≤ c && c ≤ 'F')

def isOctalDigit (c : Char) : Bool := '0' ≤ c && c ≤ '7'

def isBinaryDigit (c : Char) : Bool := c = '0' || c = '1'

def ofBase (base : Nat) (digits : Text) : Nat :=
  digits.foldl (fun n c => base * n + digitValue c) 0

/-- Whether every underscore stands between two digits; `before` says whether a digit stands before
the text. -/
def groupedAfter (isDigit : Char → Bool) (before : Bool) : Text → Bool
  | [] => true
  | '_' :: r => before && (r.head?.any isDigit) && groupedAfter isDigit false r
  | c :: r => groupedAfter isDigit (isDigit c) r

def grouped (isDigit : Char → Bool) (t : Text) : Bool := groupedAfter isDigit false t

/-- The number that digits of a base write; underscores do not count. -/
def numberIn? (base : Nat) (isDigit : Char → Bool) (t : Text) : Option Nat :=
  let digits := t.filter (· ≠ '_')
  if !digits.isEmpty && digits.all isDigit then some (ofBase base digits) else none

/-- The text after digits and underscores, of which one at least is a digit. -/
def afterDigits? (t : Text) : Option Text :=
  let isPart (c : Char) : Bool := c.isDigit || c = '_'
  if (t.takeWhile isPart).any Char.isDigit then some (t.dropWhile isPart) else none

/-! ### Numbers -/

/-- An integer of a base other than ten, after the letter of its base. Its digits may be missing. -/
def ofDigits? (base : Nat) (isDigit : Char → Bool) (t : Text) : Option Toml :=
  if t.all (fun c => isDigit c || c = '_') && grouped isDigit t then
    some (.integer ((numberIn? base isDigit t).map Int.ofNat))
  else none

/-- A decimal integer after its sign. It has no zero before other digits; with an underscore in it,
it may hold whatever does not stand beside one. -/
def ofDecimal? (sign : Option Char) (t : Text) : Option Toml :=
  if (t.head? = some '0' && t.length ≠ 1) || !grouped isHexDigit t then none
  else
    some (.integer ((numberIn? 10 Char.isDigit t).map fun n =>
      if sign = some '-' then -(n : Int) else n))

def isMark (c : Char) : Bool := c = 'e' || c = 'E'

/-- Whether a text after a sign is a float: digits, a point with digits after it or none, an
exponent or none. It has no zero before other digits. -/
def isFloat (t : Text) : Bool :=
  let whole := t.takeWhile fun c => c.isDigit || c = '_'
  let rest := do
    match ← afterDigits? t with
    | '.' :: r => afterDigits? r
    | r => some r
  let ending := rest.bind fun
    | c :: r => if isMark c then afterDigits? (Decimal.readSign r).2 else some (c :: r)
    | [] => some []
  ending = some [] && !(t.head? = some '0' && whole.tail.any Char.isDigit) && grouped Char.isDigit t

/-! ### Moments -/

/-- Two digits as a number. -/
def twoDigits? : Text → Option (Nat × Text)
  | a :: b :: r =>
      if a.isDigit && b.isDigit then some (digitValue a * 10 + digitValue b, r) else none
  | _ => none

def daysIn (year month : Nat) : Nat :=
  if month = 2 then (if (year % 4 = 0 && year % 100 ≠ 0) || year % 400 = 0 then 29 else 28)
  else if month = 4 || month = 6 || month = 9 || month = 11 then 30 else 31

/-- A date, and the text after it. -/
def afterDate? (t : Text) : Option Text := do
  let (century, t) ← twoDigits? t
  let (year, t) ← twoDigits? t
  let '-' :: t := t | none
  let (month, t) ← twoDigits? t
  let '-' :: t := t | none
  let (day, t) ← twoDigits? t
  if 1 ≤ month && month ≤ 12 && 1 ≤ day && day ≤ daysIn (century * 100 + year) month then some t
  else none

/-- A time of the day, with seconds and their fraction or without, and the text after it. -/
def afterTime? (t : Text) : Option Text := do
  let (hour, t) ← twoDigits? t
  let ':' :: t := t | none
  let (minute, t) ← twoDigits? t
  if 23 < hour || 59 < minute then none
  else match t with
    | ':' :: t => do
      let (second, t) ← twoDigits? t
      if 60 < second then none
      else match t with
        | '.' :: c :: t => if c.isDigit then some (t.dropWhile Char.isDigit) else none
        | t => some t
    | t => some t

/-- Whether a text is empty or an offset from universal time. -/
def isOffset : Text → Bool
  | [] | ['Z'] | ['z'] => true
  | c :: t => (c = '+' || c = '-') && ((do
      let (hour, t) ← twoDigits? t
      let ':' :: t := t | none
      let (minute, t) ← twoDigits? t
      some (hour ≤ 23 && minute ≤ 59 && t.isEmpty)).getD false)

/-- Whether a word is a date, a time or both. -/
def isMoment (t : Text) : Bool :=
  afterTime? t = some [] ||
    match afterDate? t with
    | some [] => true
    | some (c :: r) => (c = 'T' || c = 't' || c = ' ') && ((afterTime? r).map isOffset).getD false
    | none => false

/-! ### Words -/

def isBlank (c : Char) : Bool := c = ' ' || c = '\t'

/-- Characters that end a word. -/
def isWordEnd (c : Char) : Bool :=
  ['=', ',', '[', ']', '\x7b', '\x7d', ' ', '\t', '#', '\r', '\n'].contains c

def isQuote (c : Char) : Bool := c = '"' || c = '\''

/-- The word that begins a text. A second word after blanks belongs to it, as the time does to a
date, unless it begins with a quote or a point. -/
def readWord (t : Text) : Text × Text :=
  let word := t.takeWhile fun c => !isWordEnd c
  let rest := t.dropWhile fun c => !isWordEnd c
  let next := rest.dropWhile isBlank
  if next.head?.any fun c => !isWordEnd c && !isQuote c && c ≠ '.' then
    (word ++ rest.takeWhile isBlank ++ next.takeWhile fun c => !isWordEnd c,
    next.dropWhile fun c => !isWordEnd c)
  else (word, rest)

/-- The number or moment that a word stands for. -/
def ofNumber? (t : Text) : Option Toml :=
  let (sign, r) := Decimal.readSign t
  match r.dropWhile Char.isDigit with
  | [] => if r.isEmpty then none else ofDecimal? sign r
  | c :: rest =>
    if c = '-' || c = ':' then (if isMoment t then some (.moment t) else none)
    else if (c :: rest).any fun c => c = '.' || isMark c then
      (if isFloat r then some (.float t) else none)
    else if c = '_' then ofDecimal? sign r
    else none

/-- The value a word stands for. -/
def ofWord? : Text → Option Toml
  | ['t', 'r', 'u', 'e'] => some (.boolean true)
  | ['f', 'a', 'l', 's', 'e'] => some (.boolean false)
  | '0' :: 'x' :: r => ofDigits? 16 isHexDigit r
  | '0' :: 'o' :: r => ofDigits? 8 isOctalDigit r
  | '0' :: 'b' :: r => ofDigits? 2 isBinaryDigit r
  | t =>
    let r := (Decimal.readSign t).2
    if r = ['i', 'n', 'f'] || r = ['n', 'a', 'n'] then some (.float t) else ofNumber? t

end SqlTemplate.Toml
