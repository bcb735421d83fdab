import SqlTemplate.Formats

/-! Template arguments written as a JSON array. A string of the array that is the skip token
becomes the skip marker; inside other values the token is an ordinary string. -/

namespace SqlTemplate

inductive ArgumentsError where
  | invalid (cause : String)
  | notArray
deriving DecidableEq

/-- What is said of an error, and the cause of it if there is one. -/
def ArgumentsError.chain : ArgumentsError → List String
  | .invalid cause => ["invalid args JSON", cause]
  | .notArray => ["args must be a JSON array"]

namespace Arguments

/-- An item of the array as an argument. -/
def ofItem (skipToken : Text) : Json → Value
  | .string s => if s = skipToken then .skip else .str s
  | j => j.toArgument

def read (F : Formats) (skipToken raw : Text) : Except ArgumentsError (List Value) :=
  match F.json raw with
  | .error cause => .error (.invalid cause)
  | .ok (.array items) => .ok (items.map (ofItem skipToken))
  | .ok _ => .error .notArray

end Arguments

end SqlTemplate
