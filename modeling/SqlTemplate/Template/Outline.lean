import SqlTemplate.Template.Error

/-! What a template asks for, found without arguments: its placeholders in order and the
number of its blocks. The braces are checked on the way. -/

namespace SqlTemplate.Template

structure Slot where
  kind : Placeholder
  position : Nat
  inBlock : Bool
deriving DecidableEq

structure Outline where
  slots : List Slot
  blocks : Nat
deriving DecidableEq

namespace Outline

def empty : Outline := ⟨[], 0⟩

/-- How many arguments the template takes. -/
def arity (o : Outline) : Nat := o.slots.length

def count (o : Outline) (kind : Placeholder) : Nat :=
  o.slots.countP fun s => s.kind = kind

def addSlot (s : Slot) (o : Outline) : Outline := { o with slots := s :: o.slots }

def addBlock (o : Outline) : Outline := { o with blocks := o.blocks + 1 }

end Outline

/-- The outline of tokens, with the position of the block that is open. -/
def outlineFrom : List (Nat × Token) → Option Nat → Except TemplateError Outline
  | [], none => .ok .empty
  | [], some p => .error (.unmatchedOpen p)
  | (_, .literal _) :: ts, block => outlineFrom ts block
  | (p, .openBlock) :: ts, none => outlineFrom ts (some p)
  | (p, .openBlock) :: _, some _ => .error (.nesting p)
  | (p, .closeBlock) :: _, none => .error (.unmatchedClose p)
  | (_, .closeBlock) :: ts, some _ => (outlineFrom ts none).map .addBlock
  | (p, .placeholder kind) :: ts, block =>
      (outlineFrom ts block).map (.addSlot ⟨kind, p, block.isSome⟩)

def outline (template : Text) : Except TemplateError Outline :=
  outlineFrom (scan template) none

end SqlTemplate.Template
