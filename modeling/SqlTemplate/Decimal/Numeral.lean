import SqlTemplate.Text.Basic
import SqlTemplate.Binary64.Integer

/-! The numeral at the beginning of a text: a sign, digits with at most one point, and an
exponent. Reading takes as much as it can: a point belongs to the numeral if a digit
stands beside it, an exponent mark if digits follow. A numeral without point and
exponent is an integer if it fits 64 bits; any other is rounded to a double. -/

namespace SqlTemplate.Decimal

structure Exponent where
  mark : Char
  sign : Option Char
  digits : Text

structure Numeral where
  sign : Option Char
  whole : Text
  /-- The digits after the point, if there is a point. -/
  fraction : Option Text
  exponent : Option Exponent

/-- The number that a numeral stands for. -/
inductive Numeric where
  | int (n : Int64)
  | float (x : Binary64)

/-! ### Reading -/

/-- The characters skipped before a numeral. -/
def isPadding (c : Char) : Bool :=
  c = ' ' || c = '\t' || c = '\n' || c = '\r' || c = '\x0b' || c = '\x0c'

def readSign : Text → Option Char × Text
  | c :: r => if c = '+' || c = '-' then (some c, r) else (none, c :: r)
  | [] => (none, [])

def readDigits (t : Text) : Text × Text :=
  (t.takeWhile Char.isDigit, t.dropWhile Char.isDigit)

/-- A point and the digits after it. A point without digits needs some before it. -/
def readFraction (whole : Text) : Text → Option Text × Text
  | '.' :: r =>
    let (digits, rest) := readDigits r
    if whole.isEmpty && digits.isEmpty then (none, '.' :: r) else (some digits, rest)
  | t => (none, t)

def readExponent : Text → Option Exponent × Text
  | c :: r =>
    let (sign, afterSign) := readSign r
    let (digits, rest) := readDigits afterSign
    if (c = 'e' || c = 'E') && !digits.isEmpty then (some ⟨c, sign, digits⟩, rest)
    else (none, c :: r)
  | [] => (none, [])

/-- The longest numeral that begins a text, and the text after it. -/
def Numeral.read? (t : Text) : Option (Numeral × Text) :=
  let (sign, t) := readSign t
  let (whole, t) := readDigits t
  let (fraction, t) := readFraction whole t
  if whole.isEmpty && fraction.isNone then none
  else
    let (exponent, t) := readExponent t
    some (⟨sign, whole, fraction, exponent⟩, t)

/-! ### Value -/

def digitsValue (digits : Text) : Nat :=
  Nat.ofDigitChars 10 digits 0

/-- The value of exponent digits. Digits after the value has passed `65535` are not counted: such
an exponent is out of every double's reach already. -/
def exponentValue (digits : Text) : Nat :=
  digits.foldl (fun e c => if e < 65536 then 10 * e + (c.toNat - 48) else e) 0

def Exponent.value (e : Exponent) : Int :=
  if e.sign = some '-' then -(exponentValue e.digits : Int) else exponentValue e.digits

namespace Numeral

def negative (n : Numeral) : Bool :=
  n.sign = some '-'

/-- Whether the numeral has neither a point nor an exponent. -/
def isInteger (n : Numeral) : Bool :=
  n.fraction.isNone && n.exponent.isNone

def wholeValue (n : Numeral) : Int :=
  if n.negative then -(digitsValue n.whole : Int) else digitsValue n.whole

/-- The double nearest to the numeral. -/
def toBinary64 (n : Numeral) : Binary64 :=
  let fraction := n.fraction.getD []
  let exponent := match n.exponent with
    | some e => e.value
    | none => 0
  Binary64.ofDecimal n.negative (digitsValue (n.whole ++ fraction)) (exponent - fraction.length)

def toNumeric (n : Numeral) : Numeric :=
  if n.isInteger && Binary64.fits n.wholeValue then .int (Int64.ofInt n.wholeValue)
  else .float n.toBinary64

end Numeral

/-- The number a text begins with, after padding. -/
def numericPrefix? (t : Text) : Option Numeric :=
  (Numeral.read? (t.dropWhile isPadding)).map fun r => r.1.toNumeric

/-- A text as an integer: a finite number beyond the range gives its nearer end. -/
def textToInt (t : Text) : Int64 :=
  match numericPrefix? t with
  | some (.int n) => n
  | some (.float x) => x.clampToInt64
  | none => 0

/-- A text as a double; one too large for a finite double counts as zero. -/
def textToDouble (t : Text) : Binary64 :=
  match numericPrefix? t with
  | some (.int n) => Binary64.ofInt n.toInt
  | some (.float x) => if x.isFinite then x else Binary64.zero
  | none => Binary64.zero

end SqlTemplate.Decimal
