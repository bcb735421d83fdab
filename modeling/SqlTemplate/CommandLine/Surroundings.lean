import SqlTemplate.CommandLine.Options
import SqlTemplate.Text.Utf8

/-! What a command finds around it: files, the standard input, the log filter of the
environment and the time. A directory given as data can stand in for the file system.
Documents are read as text, and one line end at their end is dropped, so that a saved
document means the same as its text on the command line. -/

namespace SqlTemplate.CommandLine

/-- Why a file or the standard input cannot be read. -/
inductive ReadFault where
  | notFound
  | notDirectory
  | isDirectory
  | nameTooLong
  | notText
  | other (cause : String)
deriving DecidableEq

def ReadFault.message : ReadFault → String
  | .notFound => "No such file or directory (os error 2)"
  | .notDirectory => "Not a directory (os error 20)"
  | .isDirectory => "Is a directory (os error 21)"
  | .nameTooLong => "File name too long (os error 36)"
  | .notText => "stream did not contain valid UTF-8"
  | .other cause => cause

structure Surroundings where
  /-- Whether something is found at a path. That nothing is found may have other reasons than that
  nothing is there, and what is found may not be readable. -/
  present : Text → Bool
  file : Text → Except ReadFault ByteArray
  stdin : Except ReadFault ByteArray
  logFilter : Option Text
  /-- The time as log lines show it. -/
  moment : String

/-- The text that bytes encode. -/
def textOf (bytes : ByteArray) : Except ReadFault Text :=
  match Text.decode? bytes with
  | some t => .ok t
  | none => .error .notText

/-- A document without the line end at its end, a line feed or the two characters of one. -/
def dropLineEnd (t : Text) : Text :=
  match t.reverse with
  | '\n' :: '\r' :: r => r.reverse
  | '\n' :: r => r.reverse
  | _ => t

namespace Surroundings

def fileText (w : Surroundings) (path : Text) : Except ReadFault Text :=
  (w.file path).bind textOf

/-- The document a source gives. -/
def document (w : Surroundings) : Source → Except ReadFault Text
  | .inline t => .ok t
  | .file path => (w.fileText path).map dropLineEnd
  | .stdin => (w.stdin.bind textOf).map dropLineEnd

end Surroundings

/-! ### Directories -/

/-- The files of a directory by their names; it holds no other directories. -/
abbrev Directory := List (Text × ByteArray)

namespace Directory

/-- The parts of a path between its slashes. -/
def parts : Text → List Text
  | [] => [[]]
  | '/' :: r => [] :: parts r
  | c :: r =>
    match parts r with
    | p :: ps => (c :: p) :: ps
    | [] => [[c]]

/-- The most bytes of a path, and of one name in it. -/
def maxPathSize : Nat := 4095

def maxNameSize : Nat := 255

/-- Looks a path up from inside the directory. -/
def read (d : Directory) (path : Text) : Except ReadFault ByteArray :=
  let steps := parts path
  let names := steps.filter fun p => p ≠ [] && p ≠ ['.']
  let relative := steps.head? ≠ some []
  let plain := steps.getLast? = names.getLast?
  if maxPathSize < path.size then .error .nameTooLong
  else match path, names with
  | [], _ => .error .notFound
  | _, [] => .error .isDirectory
  | _, name :: deeper =>
    match d.find? fun f => f.1 = name with
    | some f =>
      if !relative then .error .notFound
      else if deeper.isEmpty && plain then .ok f.2
      else .error .notDirectory
    | none =>
      if maxNameSize < Text.size name then .error .nameTooLong
      else if name = ['.', '.'] && deeper.isEmpty then .error .isDirectory
      else .error .notFound

/-- A path leads to a file or to the directory itself. -/
def present (d : Directory) (path : Text) : Bool :=
  match d.read path with
  | .ok _ | .error .isDirectory => true
  | .error _ => false

/-- The directory as the place a command runs in. -/
def surroundings (d : Directory) (stdin : ByteArray) (logFilter : Option Text) (moment : String) :
    Surroundings :=
  ⟨d.present, d.read, .ok stdin, logFilter, moment⟩

end Directory

end SqlTemplate.CommandLine
