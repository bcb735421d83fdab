import SqlTemplate.Text.Basic

/-! Classes of characters, given by the ranges of their code points. -/

namespace SqlTemplate.Text

/-- Ranges of code points, both ends included. -/
abbrev Ranges := List (Nat × Nat)

/-- Whether the code point of a character is in one of the ranges. -/
def Ranges.has (rs : Ranges) (c : Char) : Bool :=
  rs.any fun r => r.1 ≤ c.toNat && c.toNat ≤ r.2

end SqlTemplate.Text
