import SqlTemplate.Escaper
import SqlTemplate.Text.Blank

/-! The dialects that come with the library, and the names they are chosen by. -/

namespace SqlTemplate

inductive Dialect where
  | mysql
  | ansi
deriving DecidableEq

/-- A name that no dialect has. -/
structure UnknownDialect where
  name : Text

def UnknownDialect.message (u : UnknownDialect) : String :=
  "unknown dialect: " ++ String.ofList u.name

namespace Dialect

def default : Dialect := .mysql

def name : Dialect → String
  | .mysql => "mysql"
  | .ansi => "ansi"

/-- The names a dialect answers to. -/
def aliases : Dialect → List String
  | .mysql => ["mysql", "mariadb"]
  | .ansi => ["ansi", "standard", "postgres", "sqlite"]

/-- Chooses a dialect by name. White space around the name and the case of ASCII letters do not
matter. -/
def choose (t : Text) : Except UnknownDialect Dialect :=
  let wanted := t.trim.map Char.toLower
  match [mysql, ansi].find? fun d => d.aliases.any fun a => a.toList = wanted with
  | some d => .ok d
  | none => .error ⟨wanted⟩

def escaper : Dialect → Escaper
  | .mysql => .mysql
  | .ansi => .ansi

end Dialect

end SqlTemplate
