import SqlTemplate.Value.Basic
import SqlTemplate.Decimal.Numeral

/-! Values as numbers, for the number placeholders. Every value has one: texts and host
objects by their numeric prefix, composites and the rest as zero. -/

namespace SqlTemplate.Value

def toInt : Value → Int64
  | .bool b => if b then 1 else 0
  | .int n => n
  | .float x => x.toInt64
  | .str s => Decimal.textToInt s
  | .host o => (o.numericText.map Decimal.textToInt).getD 0
  | .null | .list _ | .map _ | .skip => 0

def toDouble : Value → Binary64
  | .bool b => Binary64.ofInt (if b then 1 else 0)
  | .int n => Binary64.ofInt n.toInt
  | .float x => x
  | .str s => Decimal.textToDouble s
  | .host o => (o.numericText.map Decimal.textToDouble).getD Binary64.zero
  | .null | .list _ | .map _ | .skip => Binary64.zero

end SqlTemplate.Value
