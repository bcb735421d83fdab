import SqlTemplate.Session
import SqlTemplate.Text.Alphanumeric
import SqlTemplate.Text.Blank

/-! Log filters: directives with commas between them, each a level for all events or a
level for a target. An event passes if the most specific directive for its target lets
its level through; where none applies, nothing passes. -/

namespace SqlTemplate

/-- How urgent a level is; the most urgent is lowest. -/
def Level.rank : Level → Nat
  | .error => 1
  | .warn => 2
  | .info => 3
  | .debug => 4
  | .trace => 5

/-- What a directive lets pass: events of targets that begin with `target`, up to a rank, or what
happens inside of spans, which no event here does. -/
inductive LogDirective where
  | events (target : Text) (rank : Nat)
  | spans
deriving DecidableEq

/-- The directives of a filter. -/
abbrev LogFilter := List LogDirective

namespace LogFilter

/-! ### Reading -/

/-- The number that digits write, with a plus sign or without. -/
def number? (t : Text) : Option Nat :=
  let digits := (Text.after? ['+'] t).getD t
  if !digits.isEmpty && digits.all Char.isDigit then some (Decimal.digitsValue digits) else none

/-- The rank of a level name in any case, or of its number. -/
def rank? (t : Text) : Option Nat :=
  let names := [("off", 0), ("error", 1), ("warn", 2), ("info", 3), ("debug", 4), ("trace", 5)]
  ((number? t).filter (· ≤ 5)).or ((names.find? fun n => n.1.toList = t.map Char.toLower).map (·.2))

/-- The rank that the rest of a text from byte `n` on names; where nothing is left, all pass. -/
def rankFrom? (n : Nat) (t : Text) : Option Nat :=
  match Text.fromByte? n t with
  | some [] => some Level.trace.rank
  | some level => rank? level
  | none => none

/-- The text after the description of a span, which ends with a bracket; a field may stand in
braces before it. -/
def afterSpan? (t : Text) : Option Text :=
  match t.dropWhile fun c => c ≠ ']' && c ≠ '\x7b' with
  | ']' :: r => some r
  | '\x7b' :: r =>
    match r.takeWhile (· ≠ '\x7d'), r.dropWhile (· ≠ '\x7d') with
    | _ :: _, '\x7d' :: ']' :: r => some r
    | _, _ => none
  | _ => none

/-- Whether a directive's name can begin with a character. -/
def beginsName (c : Char) : Bool :=
  c = '-' || c = ':' || c = '_' || Text.isAlphanumeric c

/-- A directive: a level, a target, or a target and a level with an equals sign between; before the
sign may stand a span in brackets. A target without a level lets all its events pass. The
form is found in the text without the white space around it, but the parts are taken from the
whole text, at the same bytes: white space before or after them makes other names of them. -/
def directive? (t : Text) : Option LogDirective :=
  let bare := t.trim
  let name := bare.takeWhile fun c => c ≠ '=' && c ≠ '['
  if !(name.head?.all beginsName) then none
  else match bare.drop name.length with
    | [] =>
      if bare.isEmpty then none
      else some ((rank? t).elim (.events t Level.trace.rank) (.events []))
    | '=' :: _ =>
      if name.isEmpty then none
      else (rankFrom? (Text.size name + 1) t).map (.events (t.clip (Text.size name)))
    | _ :: r =>
      match afterSpan? r with
      | some [] => some .spans
      | some ('=' :: level) => (rankFrom? (Text.size bare - Text.size level) t).map fun _ => .spans
      | _ => none

/-- The pieces of a text between commas. -/
def pieces : Text → List Text
  | [] => [[]]
  | ',' :: r => [] :: pieces r
  | c :: r =>
    match pieces r with
    | p :: ps => (c :: p) :: ps
    | [] => [[c]]

/-- The filter that a text writes; one without directives lets errors pass. -/
def read? (t : Text) : Option LogFilter :=
  (((pieces t).filter (!·.isEmpty)).mapM directive?).map fun ds =>
    if ds.isEmpty then [.events [] Level.error.rank] else ds

/-! ### Filtering -/

/-- How much of a target a directive names and the rank it lets pass, if it is about the target. -/
def matches? (target : Text) : LogDirective → Option (Nat × Nat)
  | .events start rank => (Text.after? start target).map fun _ => (start.length, rank)
  | .spans => none

/-- The rank that passes for a target: that of the longest directive target it begins with, the
last one written if there are several. -/
def rankFor (f : LogFilter) (target : Text) : Nat :=
  ((f.filterMap (matches? target)).foldl (fun best d => if best.1 ≤ d.1 then d else best) (0, 0)).2

def allows (f : LogFilter) (e : Event) : Bool :=
  e.level.rank ≤ f.rankFor Event.target.toList

end LogFilter

end SqlTemplate
