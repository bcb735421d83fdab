import SqlTemplate.Value.Basic

/-! Equality of values. Doubles compare as numbers, host objects by identity, composites
item by item with the order and repetition of keys. -/

namespace SqlTemplate.Value

mutual

def equal : Value → Value → Bool
  | .null, .null => true
  | .bool a, .bool b => a == b
  | .int m, .int n => m == n
  | .float x, .float y => x.equal y
  | .str s, .str t => s == t
  | .list vs, .list ws => allEqual vs ws
  | .map es, .map fs => entriesEqual es fs
  | .skip, .skip => true
  | .host o, .host p => o.identity == p.identity
  | _, _ => false
termination_by structural v => v

def allEqual : List Value → List Value → Bool
  | [], [] => true
  | v :: vs, w :: ws => equal v w && allEqual vs ws
  | _, _ => false
termination_by structural vs => vs

def entriesEqual : List (Text × Value) → List (Text × Value) → Bool
  | [], [] => true
  | (k, v) :: es, (l, w) :: fs => k == l && equal v w && entriesEqual es fs
  | _, _ => false
termination_by structural es => es

end

end SqlTemplate.Value
