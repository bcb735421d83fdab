import SqlTemplate.Dialect
import SqlTemplate.Formats

/-! The configuration file: a dialect, a skip token and a section on logging, each of
them optional, and no other keys. An empty skip token and a blank log level are refused. -/

namespace SqlTemplate

structure LogSection where
  /-- The filter in force when the environment sets none. -/
  level : Text
  maxSqlLength : Option Nat
  logSql : Bool

structure ConfigFile where
  dialect : Dialect
  skipToken : Option Text
  log : LogSection

/-- A file is malformed, or it is well formed and breaks a rule. -/
inductive ConfigError where
  | malformed (cause : String)
  | emptySkipToken
  | emptyLogLevel
deriving DecidableEq

def ConfigError.message : ConfigError → String
  | .malformed cause => cause
  | .emptySkipToken => "skip_token must not be empty"
  | .emptyLogLevel => "log.level must not be empty"

def LogSection.default : LogSection := ⟨"warn".toList, none, true⟩

namespace ConfigFile

def default : ConfigFile := ⟨.default, none, .default⟩

/-! ### From TOML -/

/-- Whether all keys of a table are known. -/
def known (names : List String) (es : Toml.Entries) : Bool :=
  es.all fun e => names.any fun n => n.toList = e.1

def text? : Toml → Option Text
  | .string s => some s
  | _ => none

def flag? : Toml → Option Bool
  | .boolean b => some b
  | _ => none

/-- A length: an integer from zero up to the largest of 64 bits. -/
def length? : Toml → Option Nat
  | .integer (some n) => if 0 ≤ n && n < UInt64.size then some n.toNat else none
  | _ => none

/-- A dialect by its name exactly. -/
def dialectNamed? (name : Text) : Option Dialect :=
  [Dialect.mysql, .ansi].find? fun d => d.name.toList = name

/-- A dialect, given as a text or as the only key of a table whose value is empty. -/
def dialect? : Toml → Option Dialect
  | .string s => dialectNamed? s
  | .table _ [(k, .table _ [])] | .table _ [(k, .array [])] => dialectNamed? k
  | _ => none

/-- The value of a key as `read` takes it, or the default if the key is absent. -/
def field? {α : Type} (es : Toml.Entries) (name : String) (read : Toml → Option α) (absent : α) :
    Option α :=
  match es.find? name.toList with
  | some v => read v
  | none => some absent

/-- The section on logging, as a table or as an array of its values in order, of which only the
last may be missing. -/
def logSection? : Toml → Option LogSection
  | .table _ es => do
    if known ["level", "max_sql_length", "log_sql"] es then
      let level ← field? es "level" text? LogSection.default.level
      let maxSqlLength ← field? es "max_sql_length" (fun v => (length? v).map some) none
      let logSql ← field? es "log_sql" flag? true
      some ⟨level, maxSqlLength, logSql⟩
    else none
  | .array (level :: maxSqlLength :: rest) => do
    let level ← text? level
    let maxSqlLength ← length? maxSqlLength
    let logSql ← match rest with
      | v :: _ => flag? v
      | [] => some true
    some ⟨level, some maxSqlLength, logSql⟩
  | _ => none

def ofToml? (es : Toml.Entries) : Option ConfigFile := do
  if known ["dialect", "skip_token", "log"] es then
    let dialect ← field? es "dialect" dialect? .default
    let skipToken ← field? es "skip_token" (fun v => (text? v).map some) none
    let log ← field? es "log" logSection? .default
    some ⟨dialect, skipToken, log⟩
  else none

/-- Refuses an empty skip token and a blank log level. -/
def validate (c : ConfigFile) : Except ConfigError ConfigFile :=
  if c.skipToken = some [] then .error .emptySkipToken
  else if c.log.level.trim.isEmpty then .error .emptyLogLevel
  else .ok c

def read (F : Formats) (raw : Text) : Except ConfigError ConfigFile :=
  match F.toml raw with
  | .error cause => .error (.malformed cause)
  | .ok es =>
    match ofToml? es with
    | some c => c.validate
    | none => .error (.malformed (F.mistyped raw))

/-! ### In force -/

def defaultSkipToken : Text := "__SKIP__".toList

/-- The skip token, its default if the file sets none. -/
def effectiveSkipToken (c : ConfigFile) : Text :=
  c.skipToken.getD defaultSkipToken

/-- The settings of a session under this file. -/
def settings (c : ConfigFile) : Settings :=
  { Settings.default with
    maxSqlLength := c.log.maxSqlLength.or Settings.default.maxSqlLength
    logSql := c.log.logSql }

end ConfigFile

end SqlTemplate
