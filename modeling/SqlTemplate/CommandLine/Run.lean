import SqlTemplate.Arguments
import SqlTemplate.CommandLine.Help
import SqlTemplate.CommandLine.Surroundings
import SqlTemplate.ConfigFile
import SqlTemplate.Template.Outline
import SqlTemplate.Text.Quoted

/-! What a command prints and how it ends. Rendering prepares a job first: the
configuration, the log filter, the template and the arguments, in this order, where the
first fault ends it. The job's result goes to the standard output alone, log lines and
faults to the standard error, a fault with all its causes. -/

namespace SqlTemplate.CommandLine

structure Outcome where
  exit : UInt32
  stdout : String
  stderr : String

/-- Why a command ends without its result. -/
inductive Failure where
  | usage (e : UsageError)
  | configUnreadable (path : Text) (fault : ReadFault)
  | configInvalid (path : Text) (e : ConfigError)
  | logFilter (level : Text) (cause : String)
  | stdinTwice
  | unreadable (what : String) (source : Source) (fault : ReadFault)
  | arguments (e : ArgumentsError)
  | template (doing : String) (e : TemplateError)

namespace Failure

/-- What is said of a failure and of its causes, each the cause of the one before. -/
def chain : Failure → List String
  | .usage e => [e.message]
  | .configUnreadable path fault =>
    [s!"failed to read config file {String.ofList path}", fault.message]
  | .configInvalid path e => [s!"failed to parse config file {String.ofList path}", e.message]
  | .logFilter level cause => ["invalid log filter " ++ String.ofList level.quoted, cause]
  | .stdinTwice => ["template and args cannot both be read from stdin"]
  | .unreadable what (.file path) fault =>
    [s!"failed to read {what} file {String.ofList path}", fault.message]
  | .unreadable what _ fault => [s!"failed to read {what} from stdin", fault.message]
  | .arguments e => e.chain
  | .template doing e => [doing, e.message]

def message (f : Failure) : String := ": ".intercalate f.chain

end Failure

/-- The end of a command that failed, after the given log. -/
def failed (log : String) (f : Failure) : Outcome :=
  ⟨1, "", log ++ f.message ++ "\n"⟩

/-! ### Preparation -/

/-- The configuration file that is read unless another is named. -/
def defaultConfig : Text := "sqltpl.toml".toList

def readConfig (F : Formats) (w : Surroundings) (path : Text) : Except Failure ConfigFile :=
  match w.fileText path with
  | .error fault => .error (.configUnreadable path fault)
  | .ok raw =>
    match ConfigFile.read F raw with
    | .error e => .error (.configInvalid path e)
    | .ok c => .ok c

/-- The configuration in force. A named file has to be there; the default one need not. -/
def loadConfig (F : Formats) (w : Surroundings) : Option Text → Except Failure ConfigFile
  | some path => readConfig F w path
  | none => if w.present defaultConfig then readConfig F w defaultConfig else .ok .default

/-- The filter of the environment if it is one, and else that of the given level. -/
def activeFilter (F : Formats) (w : Surroundings) (level : Text) :
    Except Failure (Event → Bool) :=
  match w.logFilter.map F.logFilter with
  | some (.ok passes) => .ok passes
  | _ =>
    match F.logFilter level with
    | .ok passes => .ok passes
    | .error cause => .error (.logFilter level cause)

def readDocument (w : Surroundings) (what : String) (s : Source) : Except Failure Text :=
  match w.document s with
  | .ok t => .ok t
  | .error fault => .error (.unreadable what s fault)

def readArguments (F : Formats) (w : Surroundings) (skipToken : Text) :
    Option Source → Except Failure (List Value)
  | none => .ok []
  | some s =>
    (readDocument w "args" s).bind fun raw =>
      match Arguments.read F skipToken raw with
      | .ok values => .ok values
      | .error e => .error (.arguments e)

/-- What is settled before a document is read: the configuration and the filter of the log. -/
def setUp (F : Formats) (w : Surroundings) (r : RenderRequest) :
    Except Failure (ConfigFile × (Event → Bool)) := do
  let config ← loadConfig F w r.config
  let passes ← activeFilter F w config.log.level
  if r.template = .stdin ∧ r.args = some .stdin then .error .stdinTwice
  else .ok (config, passes)

/-- All that a rendering needs. -/
structure Job where
  passes : Event → Bool
  session : Session
  template : Text
  args : List Value

def prepare (F : Formats) (w : Surroundings) (r : RenderRequest) : Except Failure Job := do
  let (config, passes) ← setUp F w r
  let template ← readDocument w "template" r.template
  let args ← readArguments F w (r.skipToken.getD config.effectiveSkipToken) r.args
  let session := ⟨(r.dialect.getD config.dialect).escaper, config.settings⟩
  return ⟨passes, session, template, args⟩

/-! ### Commands -/

/-- Runs a job whose log is written at a moment. -/
def Job.run (F : Formats) (moment : String) (job : Job) : Outcome :=
  let built := job.session.build job.template job.args
  let log := String.join ((built.2.filter job.passes).map (F.logLine moment))
  match built.1 with
  | .ok sql => ⟨0, String.ofList sql ++ "\n", log⟩
  | .error e => failed log (.template "failed to render template" e)

def runRender (F : Formats) (w : Surroundings) (r : RenderRequest) : Outcome :=
  match prepare F w r with
  | .ok job => job.run F w.moment
  | .error f => failed "" f

/-- A text filled up with blanks to a width. -/
def padded (width : Nat) (s : String) : String :=
  s ++ String.ofList (List.replicate (width - s.length) ' ')

def slotLine (index : Nat) (s : Template.Slot) : String :=
  s!"  #{padded 3 (toString index)} {padded 2 s.kind.name} at {s.position}" ++
    (if s.inBlock then "  (in block, skippable)" else "") ++ "\n"

def outlineText (o : Template.Outline) : String :=
  s!"ok: {o.arity} placeholder(s), {o.blocks} block(s)\n" ++ String.join (o.slots.mapIdx slotLine)

def runCheck (F : Formats) (w : Surroundings) (template : Source) : Outcome :=
  let outline := do
    let _ ← activeFilter F w LogSection.default.level
    let t ← readDocument w "template" template
    match Template.outline t with
    | .ok o => .ok o
    | .error e => .error (Failure.template "invalid template" e)
  match outline with
  | .ok o => ⟨0, outlineText o, ""⟩
  | .error f => failed "" f

def Command.run (F : Formats) (w : Surroundings) : Command → Outcome
  | .help topic => ⟨0, topic.text, ""⟩
  | .render r => runRender F w r
  | .check template => runCheck F w template

/-- Reads the words of a command line and runs the command. -/
def run (F : Formats) (w : Surroundings) (words : List Text) : Outcome :=
  match Command.read words with
  | .ok c => c.run F w
  | .error e => failed "" (.usage e)

end SqlTemplate.CommandLine
