import SqlTemplate.Dialect

/-! The words of the command line and the command they ask for. Options take a value from
the next word or after an equals sign; words that are no options are templates. Words
are read from left to right, and the first fault ends the reading, as does a request
for help. -/

namespace SqlTemplate.CommandLine

inductive HelpTopic where
  | root
  | render
  | check
deriving DecidableEq

/-- Where a piece of input comes from. -/
inductive Source where
  | inline (t : Text)
  | file (path : Text)
  | stdin
deriving DecidableEq

structure RenderRequest where
  /-- The configuration file, if it is not the default one. -/
  config : Option Text
  template : Source
  /-- No source means no arguments. -/
  args : Option Source
  dialect : Option Dialect
  skipToken : Option Text
deriving DecidableEq

inductive Command where
  | help (topic : HelpTopic)
  | render (request : RenderRequest)
  | check (template : Source)
deriving DecidableEq

inductive Flag where
  | config
  | template
  | templateFile
  | args
  | argsFile
  | dialect
  | skipToken
deriving DecidableEq

namespace Flag

def name : Flag → String
  | .config => "--config"
  | .template => "--template"
  | .templateFile => "--template-file"
  | .args => "--args"
  | .argsFile => "--args-file"
  | .dialect => "--dialect"
  | .skipToken => "--skip-token"

def all : List Flag :=
  [.config, .template, .templateFile, .args, .argsFile, .dialect, .skipToken]

/-- The name with an equals sign, as it stands before a value in the same word. -/
def assignment (f : Flag) : Text :=
  f.name.toList ++ ['=']

end Flag

inductive UsageError where
  | unknownCommand (word : Text)
  | unknownArgument (word : Text)
  | valueMissing (flag : Flag)
  | templateTwice
  | argsTwice
  | unknownDialect (name : UnknownDialect)
  | templateMissing

def UsageError.message : UsageError → String
  | .unknownCommand word => "unknown command: " ++ String.ofList word
  | .unknownArgument word => "unknown argument: " ++ String.ofList word
  | .valueMissing flag => flag.name ++ " requires a value"
  | .templateTwice => "template given more than once"
  | .argsTwice => "args given more than once"
  | .unknownDialect name => name.message
  | .templateMissing => "missing template: pass it inline, via --template or --template-file"

/-! ### Words -/

/-- The text without any repetitions of a beginning. -/
def stripRepeated (start : Text) : Nat → Text → Text
  | 0, t => t
  | n + 1, t =>
    match Text.after? start t with
    | some r => stripRepeated start n r
    | none => t

/-- The value of a flag that stands in one word with it. The flag and its equals sign are taken off
as often as they are repeated. -/
def attached? (f : Flag) (word : Text) : Option Text :=
  (Text.after? f.assignment word).map fun r => stripRepeated f.assignment r.length r

/-- The flag of a word, with its value if it is attached. -/
def flag? (allowed : List Flag) (word : Text) : Option (Flag × Option Text) :=
  allowed.findSome? fun f =>
    if f.name.toList = word then some (f, none) else (attached? f word).map fun v => (f, some v)

def isHelp (word : Text) : Bool :=
  word = "-h".toList || word = "--help".toList

/-- Whether a word looks like an option. A single dash does not. -/
def isOption : Text → Bool
  | '-' :: _ :: _ => true
  | _ => false

/-- The source a path names; a dash is the standard input. -/
def Source.ofPath (path : Text) : Source :=
  if path = ['-'] then .stdin else .file path

/-! ### Options -/

/-- The options read so far. -/
structure Options where
  config : Option Text := none
  template : Option Source := none
  args : Option Source := none
  dialect : Option Dialect := none
  skipToken : Option Text := none

namespace Options

def setTemplate (o : Options) (s : Source) : Except UsageError Options :=
  if o.template.isSome then .error .templateTwice else .ok { o with template := some s }

def setArgs (o : Options) (s : Source) : Except UsageError Options :=
  if o.args.isSome then .error .argsTwice else .ok { o with args := some s }

def set (o : Options) (v : Text) : Flag → Except UsageError Options
  | .config => .ok { o with config := some v }
  | .template => o.setTemplate (.inline v)
  | .templateFile => o.setTemplate (.ofPath v)
  | .args => o.setArgs (.inline v)
  | .argsFile => o.setArgs (.ofPath v)
  | .dialect =>
    match Dialect.choose v with
    | .ok d => .ok { o with dialect := some d }
    | .error u => .error (.unknownDialect u)
  | .skipToken => .ok { o with skipToken := some v }

/-- Reads words into options; nothing stands for a request for help. -/
def read (allowed : List Flag) : List Text → Options → Except UsageError (Option Options)
  | [], o => .ok (some o)
  | word :: words, o =>
    if isHelp word then .ok none
    else match flag? allowed word with
      | some (f, some v) => (o.set v f).bind (read allowed words)
      | some (f, none) =>
        match words with
        | [] => .error (.valueMissing f)
        | v :: words => (o.set v f).bind (read allowed words)
      | none =>
        if isOption word then .error (.unknownArgument word)
        else (o.setTemplate (.inline word)).bind (read allowed words)

/-- The rendering that options ask for; without any option, help is what is asked for. -/
def toRender (o : Options) : Except UsageError Command :=
  match o.template with
  | some template => .ok (.render ⟨o.config, template, o.args, o.dialect, o.skipToken⟩)
  | none =>
    if o.config.isNone && o.args.isNone && o.dialect.isNone && o.skipToken.isNone then
      .ok (.help .render)
    else .error .templateMissing

def toCheck (o : Options) : Command :=
  match o.template with
  | some template => .check template
  | none => .help .check

end Options

def readRender (words : List Text) : Except UsageError Command :=
  (Options.read Flag.all words {}).bind fun
    | some o => o.toRender
    | none => .ok (.help .render)

def readCheck (words : List Text) : Except UsageError Command :=
  (Options.read [.templateFile] words {}).map fun
    | some o => o.toCheck
    | none => .help .check

/-- The command that the words after the program's name ask for. -/
def Command.read : List Text → Except UsageError Command
  | [] => .ok (.help .root)
  | word :: words =>
    if isHelp word then .ok (.help .root)
    else if word = "render".toList then readRender words
    else if word = "check".toList then readCheck words
    else .error (.unknownCommand word)

end SqlTemplate.CommandLine
