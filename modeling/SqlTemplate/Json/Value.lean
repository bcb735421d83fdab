import SqlTemplate.Value.Basic

/-! JSON documents as data, and as template arguments. The members of an object keep
their order. A number is known by what can be asked of it: an integer and a double. -/

namespace SqlTemplate

/-- A number of a document. It has an integer if it is one of 64 bits with a sign, and the double
it converts to, if there is one. -/
structure Json.Number where
  asInt64? : Option Int64
  asDouble? : Option Binary64

inductive Json where
  | null
  | bool (b : Bool)
  | number (n : Json.Number)
  | string (s : Text)
  | array (items : List Json)
  | object (members : List (Text × Json))

namespace Json

/-- The integer of a number goes before its double, and a number with neither of them is none. -/
def Number.toArgument (n : Number) : Value :=
  match n.asInt64? with
  | some i => .int i
  | none => .float (n.asDouble?.getD Binary64.nan)

mutual

/-- A document as an argument: arrays become lists and objects maps. -/
def toArgument : Json → Value
  | .null => .null
  | .bool b => .bool b
  | .number n => n.toArgument
  | .string s => .str s
  | .array items => .list (itemArguments items)
  | .object members => .map (memberArguments members)
termination_by structural j => j

def itemArguments : List Json → List Value
  | [] => []
  | j :: js => toArgument j :: itemArguments js
termination_by structural js => js

def memberArguments : List (Text × Json) → List (Text × Value)
  | [] => []
  | (k, j) :: ms => (k, toArgument j) :: memberArguments ms
termination_by structural ms => ms

end

/-- Members with one more: a key that is there already keeps its place and takes the new value. -/
def put (k : Text) (j : Json) : List (Text × Json) → List (Text × Json)
  | [] => [(k, j)]
  | (l, i) :: ms => if k = l then (l, j) :: ms else (l, i) :: put k j ms

/-- Members as an object has them, each key once. -/
def distinct (members : List (Text × Json)) : List (Text × Json) :=
  members.foldl (fun ms m => put m.1 m.2 ms) []

end Json

end SqlTemplate
