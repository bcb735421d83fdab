import SqlTemplate.Decimal.Notation
import SqlTemplate.Escaper
import SqlTemplate.Template.Error
import SqlTemplate.Value.Coercion

/-! The SQL that a placeholder writes for a value, or why it writes none. The untyped
placeholder writes scalars, the array placeholder lists and maps, the number
placeholders whatever number a value has, and the field placeholder quoted names. -/

namespace SqlTemplate.Template

/-- A double as a literal; infinities and what is not a number have none. -/
def doubleLiteral (x : Binary64) : Except Refusal Text :=
  if x.isFinite then .ok (Decimal.doubleText x) else .error (.nonFiniteFloat x)

mutual

/-- A value as a literal. Lists and maps are written item by item, nested ones in place. -/
def literal (e : Escaper) : Value → Except Refusal Text
  | .null => .ok "NULL".toList
  | .bool b => .ok [if b then '1' else '0']
  | .int n => .ok (Decimal.intText n.toInt)
  | .float x => doubleLiteral x
  | .str s => .ok ('\'' :: e.escape s ++ ['\''])
  | .list items => (itemLiterals e items).map Text.joined
  | .map entries => (entryLiterals e entries).map Text.joined
  | .skip => .error .skipInComposite
  | .host o => .error (.unsupportedType o.typeName)
termination_by structural v => v

def itemLiterals (e : Escaper) : List Value → Except Refusal (List Text)
  | [] => .ok []
  | v :: vs => (literal e v).bind fun t => (itemLiterals e vs).map (t :: ·)
termination_by structural vs => vs

def entryLiterals (e : Escaper) : List (Text × Value) → Except Refusal (List Text)
  | [] => .ok []
  | (k, v) :: es =>
    (literal e v).bind fun t =>
      (entryLiterals e es).map ((e.identifier k ++ ' ' :: '=' :: ' ' :: t) :: ·)
termination_by structural es => es

end

/-- One name of a list of names. -/
def nameOf : Value → Except Refusal Text
  | .str s => .ok s
  | .skip => .error .skipInComposite
  | v => .error (.fieldName v.typeName)

/-- Names in identifier quotes. -/
def fieldNames (e : Escaper) : Value → Except Refusal Text
  | .str s => .ok (e.identifier s)
  | .list items => (items.mapM nameOf).map fun names => Text.joined (names.map e.identifier)
  | v => .error (.fieldName v.typeName)

/-- What a placeholder writes for a value other than the skip marker. -/
def fragment (e : Escaper) : Placeholder → Value → Except Refusal Text
  | .generic, .null | .int, .null | .float, .null => .ok "NULL".toList
  | .array, .null | .field, .null => .error .null
  | .generic, v => if v.isComposite then .error .unexpectedArray else literal e v
  | .int, v =>
      if v.containsSkip then .error .skipInComposite else .ok (Decimal.intText v.toInt.toInt)
  | .float, v => if v.containsSkip then .error .skipInComposite else doubleLiteral v.toDouble
  | .array, v => if v.isComposite then literal e v else .error (.notArray v.typeName)
  | .field, v => fieldNames e v

end SqlTemplate.Template
