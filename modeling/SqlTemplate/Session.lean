import SqlTemplate.Template.Build

/-! A session: one escaper, used for any number of builds under settings that can be
replaced between them. Every build emits events, which the settings shape; they never
shape the SQL. -/

namespace SqlTemplate

inductive Level where
  | error
  | warn
  | info
  | debug
  | trace
deriving DecidableEq

def Level.name : Level → String
  | .error => "ERROR"
  | .warn => "WARN"
  | .info => "INFO"
  | .debug => "DEBUG"
  | .trace => "TRACE"

/-- What the event of a build shows, and at which level a successful one is reported. -/
structure Settings where
  logSql : Bool
  /-- The bytes of SQL an event shows at most, if there is a limit. -/
  maxSqlLength : Option Nat
  level : Level

def Settings.default : Settings := ⟨true, some 200, .debug⟩

/-! ### Events -/

/-- The part of an event that depends on how the build ended. -/
inductive Detail where
  | sql (shown : Text)
  | sqlSize (bytes : Nat)
  | failure (kind : ErrorKind) (position : Option Nat) (message : String)

structure Event where
  level : Level
  templateSize : Nat
  args : Nat
  detail : Detail

/-- A field of an event: a count, or a text that is shown as it is. -/
inductive FieldValue where
  | count (n : Nat)
  | text (t : String)

/-- SQL as events show it: cut to the limit, with dots if anything was cut. -/
def shownSql (settings : Settings) (sql : Text) : Text :=
  match settings.maxSqlLength with
  | some limit => if limit < sql.size then sql.clip limit ++ ['.', '.', '.'] else sql
  | none => sql

namespace Event

def target : String := "sqltpl.build"

def message (e : Event) : String :=
  match e.detail with
  | .sql _ | .sqlSize _ => "template built"
  | .failure _ _ _ => "template build failed"

def positionText : Option Nat → String
  | some p => s!"Some({p})"
  | none => "None"

/-- The fields after the message, in the order they are written. -/
def fields (e : Event) : List (String × FieldValue) :=
  [("template_len", .count e.templateSize), ("args", .count e.args)] ++
    match e.detail with
    | .sql shown => [("sql", .text (String.ofList shown))]
    | .sqlSize bytes => [("sql_len", .count bytes)]
    | .failure kind position message =>
      [("kind", .text kind.name), ("position", .text (positionText position)),
        ("error", .text message)]

def fieldText : String × FieldValue → String
  | (name, .count n) => s!" {name}={n}"
  | (name, .text t) => s!" {name}={t}"

/-- A level name, with blanks before it up to the longest one. -/
def levelText (l : Level) : String :=
  String.ofList (List.replicate (5 - l.name.length) ' ') ++ l.name

/-- The event as a line of a log, written at a moment. -/
def line (moment : String) (e : Event) : String :=
  s!"{moment} {levelText e.level} {target}: {e.message}" ++ String.join (e.fields.map fieldText) ++
    "\n"

end Event

/-! ### Emitting -/

/-- Emits an event at a level that is known only when the build runs. Each level has a way of its
own to emit. -/
def emitAt (level : Level) (event : Level → Event) : List Event :=
  match level with
  | .error => [event .error]
  | .warn => [event .warn]
  | .info => [event .info]
  | .debug => [event .debug]
  | .trace => [event .trace]

/-- What a build that succeeds emits: its SQL, or the size of it alone. -/
def emitBuilt (settings : Settings) (template : Text) (args : Nat) (sql : Text) : List Event :=
  if settings.logSql then
    emitAt settings.level fun level => ⟨level, template.size, args, .sql (shownSql settings sql)⟩
  else
    emitAt settings.level fun level => ⟨level, template.size, args, .sqlSize sql.size⟩

/-- What a build that fails emits, under all settings. -/
def emitFailed (template : Text) (args : Nat) (e : TemplateError) : List Event :=
  [⟨.warn, template.size, args, .failure e.kind e.position? e.message⟩]

/-! ### Steps -/

/-- A change of the settings in force. -/
inductive Change where
  | reset
  | noTruncation
  | withoutSql
  | maxSqlLength (bytes : Nat)
  | level (l : Level)

def Settings.apply (s : Settings) : Change → Settings
  | .reset => .default
  | .noTruncation => { s with maxSqlLength := none }
  | .withoutSql => { s with logSql := false }
  | .maxSqlLength bytes => { s with maxSqlLength := some bytes }
  | .level l => { s with level := l }

inductive Step where
  | change (c : Change)
  | identifier (name : Text)
  | build (template : Text) (args : List Value)

inductive Answer where
  | settings (s : Settings)
  | identifier (quoted : Text)
  | built (result : Except TemplateError Text) (events : List Event)

structure Session where
  escaper : Escaper
  settings : Settings

namespace Session

def start (escaper : Escaper) : Session := ⟨escaper, .default⟩

/-- The events of a build with this result. -/
def trace (s : Session) (template : Text) (args : Nat) : Except TemplateError Text → List Event
  | .ok sql => emitBuilt s.settings template args sql
  | .error e => emitFailed template args e

/-- Builds and reports. -/
def build (s : Session) (template : Text) (args : List Value) :
    Except TemplateError Text × List Event :=
  let result := Template.build s.escaper template args
  (result, s.trace template args.length result)

def step (s : Session) : Step → Answer × Session
  | .change c => (.settings (s.settings.apply c), { s with settings := s.settings.apply c })
  | .identifier name => (.identifier (s.escaper.identifier name), s)
  | .build template args => (.built (s.build template args).1 (s.build template args).2, s)

def run (s : Session) : List Step → List Answer
  | [] => []
  | x :: xs => (s.step x).1 :: run (s.step x).2 xs

end Session

end SqlTemplate
