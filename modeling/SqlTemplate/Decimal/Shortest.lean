import SqlTemplate.Binary64.Rounding

/-! The shortest decimal that reads back as a double. On the grid of multiples of a
power of ten, only the two neighbours of the number can read back as it; the grids are
tried from coarse to fine, and the first with a hit gives the fewest digits. Of two
hits the nearer is taken, and the larger if both are equally near. -/

namespace SqlTemplate.Decimal

open Nat (pow)
open Binary64 (one roundDecimal)

/-- The place of the leading digit of a positive count of grains: its value is at least ten to
this power and less than ten times that. -/
def leadingPlace (n : Nat) : Int :=
  if one ≤ n then (Nat.toDigits 10 (n / one)).length - 1
  else -((Nat.toDigits 10 ((one - 1) / n)).length : Int)

/-- The multiplier of `10 ^ place` that reads back as `n` grains, if there is one. -/
def onGrid (n : Nat) (place : Int) : Option Nat :=
  let num := n * pow 10 (-place).toNat
  let den := one * pow 10 place.toNat
  let d := num / den
  let low : Bool := roundDecimal d place = n
  let high : Bool := roundDecimal (d + 1) place = n
  if low && (!high || 2 * (num % den) < den) then some d
  else if high then some (d + 1)
  else none

/-- Digits and place of the decimal on the first grid with a hit. -/
def firstHit? (n : Nat) : Option (Nat × Int) :=
  (List.range 17).findSome? fun (i : Nat) =>
    let place := leadingPlace n - (i : Int)
    (onGrid n place).map (·, place)

/-- The exact decimal expansion. -/
def expansion (n : Nat) : Nat × Int :=
  (n * pow 5 1074, -1074)

/-- Digits and place of the shortest decimal. Seventeen digits always suffice; the exact decimal
expansion stands behind them. -/
def shortest (n : Nat) : Nat × Int :=
  (firstHit? n).getD (expansion n)

end SqlTemplate.Decimal
