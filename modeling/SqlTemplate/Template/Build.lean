import SqlTemplate.Template.Fragment

/-! Rendering a template with its arguments. Arguments are bound to the placeholders in
order, each exactly once. A block is written only if none of its placeholders got the
skip marker; its other arguments are checked all the same. Nothing is returned but the
whole text or the first error. -/

namespace SqlTemplate.Template

/-- A block that has been opened: where, the texts written into it, latest first, and whether
it will show. -/
structure Block where
  position : Nat
  written : List Text
  shown : Bool

namespace Block

def opened (position : Nat) : Block := ⟨position, [], true⟩

def write (b : Block) (t : Text) : Block := { b with written := t :: b.written }

def suppress (b : Block) : Block := { b with shown := false }

/-- What has been written into the block, in order. -/
def text (b : Block) : Text := b.written.reverse.flatten

/-- What the block leaves in the output once it is closed. -/
def output (b : Block) : Text := if b.shown then b.text else []

@[simp] theorem text_opened (position : Nat) : (opened position).text = [] := rfl

@[simp] theorem text_write (b : Block) (t : Text) : (b.write t).text = b.text ++ t := by
  simp [text, write]

@[simp] theorem text_suppress (b : Block) : b.suppress.text = b.text := rfl

@[simp] theorem output_suppress (b : Block) : b.suppress.output = [] := rfl

end Block

/-- Renders tokens, with the arguments left, the number bound before and the block that is open. -/
def renderFrom (e : Escaper) : List (Nat × Token) → List Value → Nat → Option Block →
    Except TemplateError Text
  | [], _, _, some b => .error (.unmatchedOpen b.position)
  | [], [], _, none => .ok []
  | [], arg :: args, index, none => .error (.tooManyArguments index (index + (arg :: args).length))
  | (_, .literal run) :: ts, args, index, none => (renderFrom e ts args index none).map (run ++ ·)
  | (_, .literal run) :: ts, args, index, some b => renderFrom e ts args index (some (b.write run))
  | (p, .openBlock) :: ts, args, index, none => renderFrom e ts args index (some (.opened p))
  | (p, .openBlock) :: _, _, _, some _ => .error (.nesting p)
  | (p, .closeBlock) :: _, _, _, none => .error (.unmatchedClose p)
  | (_, .closeBlock) :: ts, args, index, some b =>
      (renderFrom e ts args index none).map (b.output ++ ·)
  | (p, .placeholder kind) :: _, [], _, _ => .error (.missingArgument kind p)
  | (p, .placeholder kind) :: ts, arg :: args, index, none =>
    if arg.isSkip then .error (.invalidSkip index p)
    else match fragment e kind arg with
      | .error reason => .error (.refused kind p reason)
      | .ok t => (renderFrom e ts args (index + 1) none).map (t ++ ·)
  | (p, .placeholder kind) :: ts, arg :: args, index, some b =>
    if arg.isSkip then renderFrom e ts args (index + 1) (some b.suppress)
    else match fragment e kind arg with
      | .error reason => .error (.refused kind p reason)
      | .ok t => renderFrom e ts args (index + 1) (some (b.write t))

/-- The SQL of a template with its arguments. -/
def build (e : Escaper) (template : Text) (args : List Value) : Except TemplateError Text :=
  renderFrom e (scan template) args 0 none

end SqlTemplate.Template
