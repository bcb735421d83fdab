import SqlTemplate.Value.Basic
import SqlTemplate.Binary64.Rounding

/-! Ordinary data as template arguments. Integers of every width that fits 64 bits with a
sign, booleans, doubles and texts become scalars; what is absent becomes null, and a
list becomes a list. -/

namespace SqlTemplate

class ToValue (α : Type) where
  toValue : α → Value

export ToValue (toValue)

instance : ToValue Value := ⟨id⟩

instance : ToValue Bool := ⟨.bool⟩

instance : ToValue Int8 := ⟨fun n => .int n.toInt64⟩

instance : ToValue Int16 := ⟨fun n => .int n.toInt64⟩

instance : ToValue Int32 := ⟨fun n => .int n.toInt64⟩

instance : ToValue Int64 := ⟨.int⟩

instance : ToValue UInt8 := ⟨fun n => .int (Int64.ofNat n.toNat)⟩

instance : ToValue UInt16 := ⟨fun n => .int (Int64.ofNat n.toNat)⟩

instance : ToValue UInt32 := ⟨fun n => .int (Int64.ofNat n.toNat)⟩

instance : ToValue Binary64 := ⟨.float⟩

instance : ToValue String := ⟨fun s => .str s.toList⟩

/-- An absent value is null. -/
instance {α : Type} [ToValue α] : ToValue (Option α) :=
  ⟨fun o => (o.map toValue).getD .null⟩

instance {α : Type} [ToValue α] : ToValue (List α) :=
  ⟨fun l => .list (l.map toValue)⟩

end SqlTemplate
