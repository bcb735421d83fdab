import SqlTemplate.Decimal.Numeral
import SqlTemplate.Json.Value

/-! JSON numbers. The digits are gathered in 64 bits; those that no longer fit are
dropped, and only their number before the point counts. The significand is rounded to
a double and then multiplied or divided by a power of ten, each step rounded, so the
result may differ in its last bit from the double nearest to the text. Integers that
fit 64 bits with a sign stay integers; what overflows a double is no number. -/

namespace SqlTemplate.Json

open Nat (pow)
open Decimal (Numeral readDigits digitsValue)

/-! ### Grammar -/

/-- The digits before the point: no zero stands before other digits. -/
def readWhole? (t : Text) : Option (Text × Text) :=
  let (digits, rest) := readDigits t
  match digits with
  | [] => none
  | '0' :: _ :: _ => none
  | digits => some (digits, rest)

/-- The digits after a point, at least one. -/
def readPoint? : Text → Option (Option Text × Text)
  | '.' :: r =>
    let (digits, rest) := readDigits r
    if digits.isEmpty then none else some (some digits, rest)
  | t => some (none, t)

/-- A mark, a sign and at least one digit. -/
def readPower? : Text → Option (Option Decimal.Exponent × Text)
  | c :: r =>
    if c = 'e' || c = 'E' then
      let (sign, afterSign) := Decimal.readSign r
      let (digits, rest) := readDigits afterSign
      if digits.isEmpty then none else some (some ⟨c, sign, digits⟩, rest)
    else some (none, c :: r)
  | [] => some (none, [])

/-- The numeral that begins a text, and the text after it. -/
def readNumeral? (t : Text) : Option (Numeral × Text) := do
  let (sign, t) := match t with
    | '-' :: r => (some '-', r)
    | t => (none, t)
  let (whole, t) ← readWhole? t
  let (fraction, t) ← readPoint? t
  let (exponent, t) ← readPower? t
  some (⟨sign, whole, fraction, exponent⟩, t)

/-! ### Value -/

/-- Appends digits to a significand as long as it fits 64 bits; the digits that are left over. -/
def gather (significand : Nat) : Text → Nat × Text
  | [] => (significand, [])
  | c :: r =>
    let next := significand * 10 + (c.toNat - 48)
    if next < pow 2 64 then gather next r else (significand, c :: r)

/-- The double nearest to a power of ten, in grains. -/
def powerOfTen (n : Nat) : Nat :=
  Binary64.roundRatio (pow 10 n) 1

/-- Grains divided by a power of ten, in steps that are doubles themselves. -/
def scaleDown (grains n : Nat) : Nat :=
  if n ≤ 308 then Binary64.divGrains grains (powerOfTen n)
  else if grains = 0 then 0
  else scaleDown (Binary64.divGrains grains (powerOfTen 308)) (n - 308)
termination_by n

/-- Grains times a power of ten, unless that overflows. -/
def scaleUp? (grains n : Nat) : Option Nat :=
  if grains = 0 then some 0
  else if n ≤ 308 then
    let product := Binary64.mulGrains grains (powerOfTen n)
    if product < Binary64.overflow then some product else none
  else none

def scale? (grains : Nat) : Int → Option Nat
  | .ofNat n => scaleUp? grains n
  | .negSucc n => some (scaleDown grains (n + 1))

/-- The number a numeral without point and exponent stands for, if its digits fit 64 bits. Minus
zero is the double alone, since no integer has that sign. -/
def integer (negative : Bool) (n : Nat) : Number :=
  let value : Int := if negative then -n else n
  let isInteger := Binary64.fits value && !(negative && n == 0)
  ⟨if isInteger then some (Int64.ofInt value) else none,
    some (Binary64.ofGrains negative (Binary64.roundRatio n 1))⟩

/-- The number a numeral stands for. An exponent past 31 bits makes zero of every significand if it
is negative, and is an overflow if it is positive, except for a zero significand. -/
def number? (n : Numeral) : Option Number :=
  let (significand, dropped) := gather 0 n.whole
  if n.isInteger && dropped.isEmpty then some (integer n.negative significand)
  else
    let fraction := n.fraction.getD []
    let (significand, unread) := gather significand fraction
    let place : Int := (dropped.length + unread.length : Nat) - (fraction.length : Int)
    let grains := Binary64.roundRatio significand 1
    let float (scaled : Nat) : Number := ⟨none, some (Binary64.ofGrains n.negative scaled)⟩
    match n.exponent with
    | none => (scale? grains place).map float
    | some e =>
      let power := digitsValue e.digits
      let scaled := if e.sign = some '-' then place - power else place + power
      if power < pow 2 31 then (scale? grains scaled).map float
      else if significand = 0 || e.sign = some '-' then some (float 0)
      else none

end SqlTemplate.Json
