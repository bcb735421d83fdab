import Mathlib.Tactic.DeprecateTo
import SqlTemplate.CommandLine.Run

/-! The program: reads what the command line names, runs the command, and prints what it
ends with. Files and the standard input are read in the order in which the command asks
for them, and only as far as it gets. The standard clock comes with the one import from
outside. -/

namespace SqlTemplate.CommandLine

def ReadFault.ofError : IO.Error → ReadFault
  | .noFileOrDirectory _ _ _ => .notFound
  | .inappropriateType _ code _ => if code = 20 then .notDirectory else .isDirectory
  | .invalidArgument _ 36 _ => .nameTooLong
  | e => .other (toString e)

/-- What reading gives, or why it cannot be done. -/
def attempt (bytes : IO ByteArray) : IO (Except ReadFault ByteArray) := do
  try
    return .ok (← bytes)
  catch e =>
    return .error (.ofError e)

/-- The time in UTC, to the microsecond. -/
def now : IO String := do
  let time := Std.Time.DateTime.ofTimestamp (← Std.Time.Timestamp.now) .UTC
  return time.format "uuuu-MM-dd'T'HH:mm:ss.SSSSSS'Z'"

namespace Surroundings

/-- What is known before anything is read. -/
def unread : IO Surroundings := do
  let logFilter ← IO.getEnv "SQLTPL_LOG"
  return {
    present := fun _ => false
    file := fun _ => .error .notFound
    stdin := .error .notFound
    logFilter := logFilter.map String.toList
    moment := "" }

/-- Looks for a file and reads it. -/
def withFile (w : Surroundings) (path : Text) : IO Surroundings := do
  let name := String.ofList path
  let found ← (System.mkFilePath [name]).pathExists
  let content ← attempt (IO.FS.readBinFile name)
  return { w with
    present := fun p => if p = path then found else w.present p
    file := fun p => if p = path then content else w.file p }

def withSource (w : Surroundings) : Source → IO Surroundings
  | .inline _ => return w
  | .file path => w.withFile path
  | .stdin => return { w with stdin := ← attempt (do (← IO.getStdin).readBinToEnd) }

/-- Reads documents one after the other, up to the first that cannot be read. -/
def withDocuments (w : Surroundings) : List Source → IO Surroundings
  | [] => return w
  | s :: ss => do
    let w ← w.withSource s
    match w.document s with
    | .ok _ => w.withDocuments ss
    | .error _ => return w

/-- What the system holds for a command, as far as the command gets with it. -/
def forCommand (F : Formats) : Command → IO Surroundings
  | .help _ => unread
  | .render r => do
    let w ← (← unread).withFile (r.config.getD defaultConfig)
    match setUp F w r with
    | .ok _ => w.withDocuments (r.template :: r.args.toList)
    | .error _ => return w
  | .check template => do
    let w ← unread
    match activeFilter F w LogSection.default.level with
    | .ok _ => w.withDocuments [template]
    | .error _ => return w

end Surroundings

def outcomeOf (words : List Text) : IO Outcome := do
  match Command.read words with
  | .error e => return failed "" (.usage e)
  | .ok command =>
    let w ← Surroundings.forCommand .own command
    return command.run .own { w with moment := ← now }

end SqlTemplate.CommandLine

def main (args : List String) : IO UInt32 := do
  let outcome ← SqlTemplate.CommandLine.outcomeOf (args.map String.toList)
  IO.print outcome.stdout
  IO.eprint outcome.stderr
  return outcome.exit
