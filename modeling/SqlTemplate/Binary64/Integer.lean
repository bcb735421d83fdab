import SqlTemplate.Binary64.Rounding

/-! From doubles to 64-bit integers. The fraction is dropped, and what passes an end of the range
either becomes zero, which a comparison with the ends tells beforehand, or that end. -/

namespace SqlTemplate.Binary64

/-- Whether an integer is in the range of 64-bit integers. -/
def fits (n : Int) : Bool :=
  Int64.minValue.toInt ≤ n && n ≤ Int64.maxValue.toInt

/-! ### Order -/

/-- The grains with the sign. -/
def signedGrains (x : Binary64) : Int :=
  if x.negative then -(x.grains : Int) else x.grains

/-- Numbers compare by value, and what is not a number compares with nothing. -/
def lt (x y : Binary64) : Bool :=
  !x.isNaN && !y.isNaN && x.signedGrains < y.signedGrains

def le (x y : Binary64) : Bool :=
  !x.isNaN && !y.isNaN && x.signedGrains ≤ y.signedGrains

/-! ### Conversion -/

/-- The value of a double without its fraction. -/
def truncate (x : Binary64) : Int :=
  let n : Int := x.grains / one
  if x.negative then -n else n

/-- The truncated value, drawn to the end of the range it passes; what is not a
number becomes zero. -/
def saturate (x : Binary64) : Int64 :=
  if x.isNaN then 0
  else if x.truncate < Int64.minValue.toInt then Int64.minValue
  else if Int64.maxValue.toInt < x.truncate then Int64.maxValue
  else Int64.ofInt x.truncate

/-- The first whole number above the range. It is a double, and so is the last one in it on
the other side. -/
def limit : Int := 9223372036854775808

/-- The truncated value, and zero for what is not finite or out of range. -/
def toInt64 (x : Binary64) : Int64 :=
  if !x.isFinite || (ofInt limit).le x || x.lt (ofInt (-limit)) then 0 else x.saturate

/-- The truncated value, drawn to the end of the range it passes, and zero for what
is not finite. -/
def clampToInt64 (x : Binary64) : Int64 :=
  if x.isFinite then x.saturate else 0

end SqlTemplate.Binary64
