import SqlTemplate.Binary64.Basic

/-! Rounding to the nearest double, ties to the even neighbour. A nonnegative rational
number of grains is rounded by one division: its integer part gives the spacing of the
doubles around it, and the quotient by that spacing is rounded. Decimal numbers,
integers, products, quotients and single precision numbers all round through it. -/

namespace SqlTemplate.Binary64

open Nat (pow)

/-- The whole number nearest to `num / den`, the even one of two. -/
def nearest (num den : Nat) : Nat :=
  let q := num / den
  let r := num % den
  if 2 * r < den then q else if den < 2 * r then q + 1 else q + q % 2

/-- The double nearest to `num / den` grains, as a count of grains with no upper end. -/
def roundGrains (num den : Nat) : Nat :=
  let s := spacing (num / den)
  nearest num (den * pow 2 s) * pow 2 s

/-- The grains nearest to the number `num / den`. -/
def roundRatio (num den : Nat) : Nat :=
  roundGrains (num * one) den

/-- The grains nearest to `digits * 10 ^ exponent`. -/
def roundDecimal (digits : Nat) (exponent : Int) : Nat :=
  roundRatio (digits * pow 10 exponent.toNat) (pow 10 (-exponent).toNat)

def ofDecimal (negative : Bool) (digits : Nat) (exponent : Int) : Binary64 :=
  ofGrains negative (roundDecimal digits exponent)

def ofInt (n : Int) : Binary64 :=
  ofGrains (n < 0) (roundRatio n.natAbs 1)

/-- The rounded product of two counts of grains. -/
def mulGrains (a b : Nat) : Nat :=
  roundGrains (a * b) one

/-- The rounded quotient of two counts of grains. -/
def divGrains (a b : Nat) : Nat :=
  roundGrains (a * one) b

/-- A single precision number as a double, from its 32 bits. The value is kept; what is not a
number stays so and keeps its leading fraction bits. -/
def ofSingle (bits : UInt32) : Binary64 :=
  let n := bits.toNat
  let negative : Bool := pow 2 31 ≤ n
  let m := n % pow 2 31
  let sign := if negative then pow 2 63 else 0
  if 255 * pow 2 23 < m then ⟨UInt64.ofNat (sign + infinity + pow 2 51 + m % pow 2 22 * pow 2 29)⟩
  else if m = 255 * pow 2 23 then ⟨UInt64.ofNat (sign + infinity)⟩
  else if m < pow 2 23 then ofGrains negative (m * pow 2 925)
  else ofGrains negative ((pow 2 23 + m % pow 2 23) * pow 2 (m / pow 2 23 - 1) * pow 2 925)

end SqlTemplate.Binary64
