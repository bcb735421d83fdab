import SqlTemplate.Json.Reader
import SqlTemplate.LogFilter
import SqlTemplate.Toml.Reader

/-! The formats a command takes from elsewhere: JSON, TOML, log filters and log lines. A
command is given what reads and writes them, so that what it does can be said whatever
reads and writes them. `Formats.own` is what this library has for each. -/

namespace SqlTemplate

/-- A reader refuses a text with the cause of it. -/
structure Formats where
  json : Text → Except String Json
  toml : Text → Except String Toml.Entries
  /-- What is wrong with a TOML document whose keys or values are not those of a configuration. -/
  mistyped : Text → String
  /-- A filter lets events pass. -/
  logFilter : Text → Except String (Event → Bool)
  /-- An event in a log, written at a moment. -/
  logLine : String → Event → String

namespace Formats

/-- A text that was read, or the cause why it was not. -/
def readOr {α : Type} (cause : String) : Option α → Except String α
  | some a => .ok a
  | none => .error cause

theorem readOr_eq_ok_iff {α : Type} {cause : String} {x : Option α} {a : α} :
    readOr cause x = .ok a ↔ x = some a := by
  cases x <;> simp [readOr]

def own : Formats where
  json t := readOr "not a JSON document" (Json.read? t)
  toml t := readOr "not a TOML document" (Toml.read? t)
  mistyped _ := "not a configuration"
  logFilter t := (readOr "invalid filter directive" (LogFilter.read? t)).map LogFilter.allows
  logLine := Event.line

theorem own_logFilter {t : Text} {f : LogFilter} (h : LogFilter.read? t = some f) :
    own.logFilter t = .ok f.allows := by
  show (readOr _ (LogFilter.read? t)).map LogFilter.allows = _
  rw [h]
  rfl

end Formats

end SqlTemplate
