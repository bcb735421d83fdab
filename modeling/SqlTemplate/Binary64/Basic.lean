/-! Double precision numbers as their 64 bits. The smallest positive double,
`2 ^ -1074`, is the grain: every finite double is a whole number of grains with a
sign, so exact work on doubles is work on natural numbers. The bits below the sign
are the magnitude, and magnitudes grow with the grains they stand for. -/

namespace SqlTemplate

/-- A double, by its bits: the sign, eleven bits of exponent and the fraction. -/
structure Binary64 where
  bits : UInt64
deriving DecidableEq

namespace Binary64

open Nat (pow)

/-- The grains in one. -/
def one : Nat := pow 2 1074

/-- The magnitude of the infinities; those above it are not numbers. -/
def infinity : Nat := 2047 * pow 2 52

/-- The first count of grains that is too large for a finite double. -/
def overflow : Nat := pow 2 2098

def negative (x : Binary64) : Bool :=
  pow 2 63 ≤ x.bits.toNat

def magnitude (x : Binary64) : Nat :=
  x.bits.toNat % pow 2 63

def isFinite (x : Binary64) : Bool :=
  x.magnitude < infinity

def isNaN (x : Binary64) : Bool :=
  infinity < x.magnitude

/-- The grains of a finite magnitude. Below `2 ^ 52` a magnitude counts them itself; above, the
exponent doubles the spacing from one step to the next. -/
def grainsOf (magnitude : Nat) : Nat :=
  if magnitude < pow 2 52 then magnitude
  else (pow 2 52 + magnitude % pow 2 52) * pow 2 (magnitude / pow 2 52 - 1)

def grains (x : Binary64) : Nat :=
  grainsOf x.magnitude

/-- Doubles around `n` grains lie `2 ^ spacing n` grains apart. -/
def spacing (n : Nat) : Nat :=
  n.log2 - 52

/-- The magnitude of a count of grains that is a double, and the infinite one past the largest. -/
def magnitudeOf (n : Nat) : Nat :=
  if n < overflow then spacing n * pow 2 52 + n / pow 2 (spacing n) else infinity

/-- The double with the given sign and grains. -/
def ofGrains (negative : Bool) (n : Nat) : Binary64 :=
  ⟨UInt64.ofNat ((if negative then pow 2 63 else 0) + magnitudeOf n)⟩

def zero : Binary64 := ⟨0⟩

/-- The double that stands for no number where one has to be given. -/
def nan : Binary64 := ⟨0x7ff8000000000000⟩

/-- Numbers compare by value: both zeros are equal, and what is not a number equals nothing. -/
def equal (x y : Binary64) : Bool :=
  !x.isNaN && !y.isNaN && (x.bits == y.bits || (x.magnitude == 0 && y.magnitude == 0))

/-- How an infinite double, or one that is not a number, is called. -/
def nonFiniteName (x : Binary64) : String :=
  if x.isNaN then "NaN" else if x.negative then "-inf" else "inf"

end Binary64

end SqlTemplate
