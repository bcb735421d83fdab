import SqlTemplate.Template.Token
import SqlTemplate.Binary64.Basic

/-! What can be wrong with a template and its arguments. A refusal says why a placeholder
does not take a value; an error adds the place in the template, or stands for a fault
of the braces or of the number of arguments. Positions are byte offsets. -/

namespace SqlTemplate

/-- Why a placeholder does not take a value. -/
inductive Refusal where
  | null
  | notArray (found : String)
  | fieldName (found : String)
  | skipInComposite
  | unsupportedType (name : Text)
  | unexpectedArray
  | nonFiniteFloat (x : Binary64)
deriving DecidableEq

inductive TemplateError where
  | nesting (position : Nat)
  | unmatchedOpen (position : Nat)
  | unmatchedClose (position : Nat)
  | missingArgument (placeholder : Placeholder) (position : Nat)
  | tooManyArguments (consumed given : Nat)
  | invalidSkip (index position : Nat)
  | refused (placeholder : Placeholder) (position : Nat) (reason : Refusal)
deriving DecidableEq

/-- The kinds of errors, without what they carry. -/
inductive ErrorKind where
  | nesting
  | unmatchedBrace
  | missingArgument
  | tooManyArguments
  | invalidSkip
  | nullNotAllowed
  | notArray
  | fieldName
  | skipInComposite
  | unsupportedType
  | unexpectedArray
  | nonFiniteFloat
deriving DecidableEq

namespace ErrorKind

def all : List ErrorKind :=
  [.nesting, .unmatchedBrace, .missingArgument, .tooManyArguments, .invalidSkip,
    .nullNotAllowed, .notArray, .fieldName, .skipInComposite, .unsupportedType, .unexpectedArray,
    .nonFiniteFloat]

def name : ErrorKind → String
  | .nesting => "nesting"
  | .unmatchedBrace => "unmatched_brace"
  | .missingArgument => "missing_argument"
  | .tooManyArguments => "too_many_arguments"
  | .invalidSkip => "invalid_skip"
  | .nullNotAllowed => "null_not_allowed"
  | .notArray => "not_array"
  | .fieldName => "field_name"
  | .skipInComposite => "skip_in_composite"
  | .unsupportedType => "unsupported_type"
  | .unexpectedArray => "unexpected_array"
  | .nonFiniteFloat => "non_finite_float"

end ErrorKind

def Refusal.kind : Refusal → ErrorKind
  | .null => .nullNotAllowed
  | .notArray _ => .notArray
  | .fieldName _ => .fieldName
  | .skipInComposite => .skipInComposite
  | .unsupportedType _ => .unsupportedType
  | .unexpectedArray => .unexpectedArray
  | .nonFiniteFloat _ => .nonFiniteFloat

/-- The text of a refusal at a placeholder. -/
def Refusal.message (placeholder : Placeholder) (position : Nat) : Refusal → String
  | .null => s!"Argument for {placeholder.name} at position {position} cannot be NULL"
  | .notArray found => s!"Argument for ?a at position {position} is not an array (got {found})"
  | .fieldName found =>
    s!"Argument for ?# at position {position} must be a string or a list of strings (got {found})"
  | .skipInComposite => s!"Skip value inside a composite argument at position {position}"
  | .unsupportedType name =>
      s!"Unsupported argument type '{String.ofList name}' at position {position}"
  | .unexpectedArray => s!"Array argument for untyped ? at position {position}; use ?a"
  | .nonFiniteFloat x =>
      s!"Non-finite float {x.nonFiniteName} at position {position} has no SQL literal"

namespace TemplateError

def kind : TemplateError → ErrorKind
  | .nesting _ => .nesting
  | .unmatchedOpen _ | .unmatchedClose _ => .unmatchedBrace
  | .missingArgument _ _ => .missingArgument
  | .tooManyArguments _ _ => .tooManyArguments
  | .invalidSkip _ _ => .invalidSkip
  | .refused _ _ reason => reason.kind

/-- Where the error was found. Surplus arguments have no place in the template. -/
def position? : TemplateError → Option Nat
  | .tooManyArguments _ _ => none
  | .nesting position | .unmatchedOpen position | .unmatchedClose position
      | .missingArgument _ position
  | .invalidSkip _ position | .refused _ position _ => some position

/-- Whether the braces of the template are at fault. -/
def isStructural : TemplateError → Bool
  | .nesting _ | .unmatchedOpen _ | .unmatchedClose _ => true
  | _ => false

/-- Whether the number of arguments is at fault. -/
def isArity : TemplateError → Bool
  | .missingArgument _ _ | .tooManyArguments _ _ => true
  | _ => false

def message : TemplateError → String
  | .nesting position => s!"Nested conditional blocks are not supported (position {position})"
  | .unmatchedOpen position => s!"Unmatched '\x7b' at position {position}"
  | .unmatchedClose position => s!"Unmatched '\x7d' at position {position}"
  | .missingArgument placeholder position =>
      s!"No argument for {placeholder.name} at position {position}"
  | .tooManyArguments consumed given =>
      s!"Too many arguments: template consumed {consumed}, got {given}"
  | .invalidSkip index position =>
    s!"Cannot skip argument #{index} outside of a conditional block (position {position})"
  | .refused placeholder position reason => reason.message placeholder position

end TemplateError

end SqlTemplate
