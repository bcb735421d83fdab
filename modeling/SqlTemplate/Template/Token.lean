import SqlTemplate.Text.Basic

/-! Templates as tokens. A question mark is a placeholder and takes the type letter after
it, braces open and close a conditional block, and all between them is literal text.
The texts of the tokens make up the template again. -/

namespace SqlTemplate

inductive Placeholder where
  | generic
  | int
  | float
  | array
  | field
deriving DecidableEq

namespace Placeholder

def all : List Placeholder := [.generic, .int, .float, .array, .field]

/-- The placeholder that a letter after the question mark makes. -/
def ofSuffix? : Char → Option Placeholder
  | 'd' => some .int
  | 'f' => some .float
  | 'a' => some .array
  | '#' => some .field
  | _ => none

def source : Placeholder → Text
  | .generic => ['?']
  | .int => ['?', 'd']
  | .float => ['?', 'f']
  | .array => ['?', 'a']
  | .field => ['?', '#']

def name (p : Placeholder) : String :=
  String.ofList p.source

end Placeholder

namespace Template

inductive Token where
  | literal (run : Text)
  | openBlock
  | closeBlock
  | placeholder (kind : Placeholder)
deriving DecidableEq

def Token.source : Token → Text
  | .literal run => run
  | .openBlock => ['\x7b']
  | .closeBlock => ['\x7d']
  | .placeholder kind => kind.source

/-- Puts a character before the tokens, into the literal text they begin with if they do. -/
def prependLiteral (c : Char) : List Token → List Token
  | .literal run :: ts => .literal (c :: run) :: ts
  | ts => .literal [c] :: ts

/-- The tokens of a template. -/
def tokens : Text → List Token
  | [] => []
  | '\x7b' :: r => .openBlock :: tokens r
  | '\x7d' :: r => .closeBlock :: tokens r
  | ['?'] => [.placeholder .generic]
  | '?' :: c :: r =>
    match Placeholder.ofSuffix? c with
    | some kind => .placeholder kind :: tokens r
    | none => .placeholder .generic :: tokens (c :: r)
  | c :: r => prependLiteral c (tokens r)

/-- The tokens with the byte positions they start at, the first at the given one. -/
def place : Nat → List Token → List (Nat × Token)
  | _, [] => []
  | p, t :: ts => (p, t) :: place (p + t.source.size) ts

/-- The tokens of a template with their byte positions. -/
def scan (template : Text) : List (Nat × Token) :=
  place 0 (tokens template)

end Template

end SqlTemplate
