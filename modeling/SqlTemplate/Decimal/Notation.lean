import SqlTemplate.Text.Basic
import SqlTemplate.Decimal.Shortest

/-! Number literals of the generated SQL. Integers are plain decimals. Doubles have
the fewest digits that read back, written positionally from `1e-4` up to `1e15` and
with an exponent outside; the exponent form always has a point, and the exponent
always has a sign. -/

namespace SqlTemplate.Decimal

def natText (n : Nat) : Text :=
  Nat.toDigits 10 n

def intText (n : Int) : Text :=
  if n < 0 then '-' :: natText n.natAbs else natText n.natAbs

/-- Digits without the zeros at their end, and the place of the last digit that is left. -/
def withoutZeros (digits : Text) (place : Int) : Text × Int :=
  let kept := (digits.reverse.dropWhile (· = '0')).reverse
  (kept, place + (digits.length - kept.length : Nat))

/-- Digits whose last stands at the given place, written positionally. -/
def positional (digits : Text) (place : Int) : Text :=
  if 0 ≤ place then digits ++ List.replicate place.toNat '0'
  else
    let places := (-place).toNat
    let padded := List.replicate (places + 1 - digits.length) '0' ++ digits
    padded.take (padded.length - places) ++ '.' :: padded.drop (padded.length - places)

/-- Digits whose last stands at the given place, with a point after the first and an exponent. -/
def scientific (digits : Text) (place : Int) : Text :=
  let exponent := place + (digits.length : Int) - 1
  digits.take 1 ++ '.' :: (if digits.length ≤ 1 then ['0'] else digits.drop 1) ++
    'E' :: (if exponent < 0 then '-' else '+') :: natText exponent.natAbs

/-- Digits whose last stands at the given place, in one of the two notations. -/
def notate (withExponent : Bool) (digits : Text) (place : Int) : Text :=
  if withExponent then scientific digits place else positional digits place

/-- Whether a positive count of grains is too large or too small to be written positionally. -/
def needsExponent (n : Nat) : Bool :=
  Nat.pow 10 15 * Binary64.one ≤ n || n * Nat.pow 10 4 < Binary64.one

/-- The text of a positive count of grains. -/
def grainsText (n : Nat) : Text :=
  let decimal := shortest n
  let kept := withoutZeros (natText decimal.1) decimal.2
  notate (needsExponent n) kept.1 kept.2

/-- The text of a finite double. -/
def doubleText (x : Binary64) : Text :=
  let text := if x.grains = 0 then ['0'] else grainsText x.grains
  if x.negative then '-' :: text else text

end SqlTemplate.Decimal
