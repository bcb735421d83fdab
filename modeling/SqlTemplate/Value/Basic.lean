import SqlTemplate.Text.Basic
import SqlTemplate.Binary64.Basic

/-! Template arguments: scalars, lists, maps in the order of their entries, the marker
that suppresses a block, and host objects that have no literal of their own. -/

namespace SqlTemplate

/-- An object of the calling program. Its identity tells it from every other; its numeric text is
what a number placeholder reads. -/
structure HostObject where
  identity : Nat
  typeName : Text
  numericText : Option Text
deriving DecidableEq

inductive Value where
  | null
  | bool (b : Bool)
  | int (n : Int64)
  | float (x : Binary64)
  | str (s : Text)
  | list (items : List Value)
  | map (entries : List (Text × Value))
  | skip
  | host (object : HostObject)

namespace Value

def isNull : Value → Bool
  | .null => true
  | _ => false

def isSkip : Value → Bool
  | .skip => true
  | _ => false

def isComposite : Value → Bool
  | .list _ | .map _ => true
  | _ => false

/-- The name of a value's type in messages. -/
def typeName : Value → String
  | .null => "null"
  | .bool _ => "bool"
  | .int _ => "int"
  | .float _ => "float"
  | .str _ => "string"
  | .list _ => "list"
  | .map _ => "map"
  | .skip => "skip"
  | .host _ => "opaque"

mutual

/-- Whether the skip marker stands anywhere in a value. -/
def containsSkip : Value → Bool
  | .skip => true
  | .list items => anyContainsSkip items
  | .map entries => entriesContainSkip entries
  | _ => false
termination_by structural v => v

def anyContainsSkip : List Value → Bool
  | [] => false
  | v :: vs => containsSkip v || anyContainsSkip vs
termination_by structural vs => vs

def entriesContainSkip : List (Text × Value) → Bool
  | [] => false
  | (_, v) :: es => containsSkip v || entriesContainSkip es
termination_by structural es => es

end

end Value

end SqlTemplate
