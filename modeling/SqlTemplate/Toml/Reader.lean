import SqlTemplate.Toml.Quoted

/-! Reading TOML: keys, values and statements, and whole documents. A document is read
into statements first; the tables they make are assembled from these. -/

namespace SqlTemplate.Toml

/-! ### Between the values -/

/-- The text after a comment's mark, up to the end of the line. -/
def afterComment? : Text → Option Text
  | '#' :: r =>
    let rest := r.dropWhile isPlain
    if rest.isEmpty || (afterBreak? rest).isSome then some rest else none
  | t => some t

/-- What follows the end of a line on which nothing but white space and a comment is left. -/
def afterLine? (t : Text) : Option Text := do
  let rest ← afterComment? (t.dropWhile isBlank)
  if rest.isEmpty then some [] else afterBreak? rest

/-- Skips white space, line breaks and comments; in a comment only its end is looked for. -/
def skipLines? : Bool → Text → Option Text
  | _, [] => some []
  | _, '\n' :: r => skipLines? false r
  | _, '\r' :: '\n' :: r => skipLines? false r
  | true, c :: r => if isPlain c then skipLines? true r else none
  | false, '#' :: r => skipLines? true r
  | false, c :: r => if isBlank c then skipLines? false r else some (c :: r)

/-! ### Keys -/

def isKeyChar (c : Char) : Bool := c.isAlphanum || c = '-' || c = '_'

def readKey? : Text → Option (Text × Text)
  | '"' :: r => readBasic? r
  | '\'' :: r => readLiteral? r
  | t =>
    let key := t.takeWhile isKeyChar
    if key.isEmpty then none else some (key, t.dropWhile isKeyChar)

/-- How many arrays and tables in braces may stand inside each other, and how many keys may be
joined by points. -/
def maxDepth : Nat := 80

/-- At most `limit` keys with points between them, white space around each. -/
def readKeys? (limit : Nat) (t : Text) : Option (List Text × Text) :=
  match limit with
  | 0 => none
  | limit + 1 => do
    let (k, r) ← readKey? (t.dropWhile isBlank)
    match r.dropWhile isBlank with
    | '.' :: r => (readKeys? limit r).map fun u => (k :: u.1, u.2)
    | r => some ([k], r)

/-! ### Values -/

mutual

/-- The value that begins a text, and the text after it; `levels` more arrays and
tables may open. -/
def readValue? (fuel levels : Nat) (t : Text) : Option (Toml × Text) :=
  match fuel with
  | 0 => none
  | fuel + 1 =>
    match t with
    | '"' :: _ | '\'' :: _ => (readString? t).map fun u => (.string u.1, u.2)
    | '[' :: r =>
      if levels = 0 then none
      else (readItems? fuel (levels - 1) r).map fun u => (.array u.1, u.2)
    | '\x7b' :: r =>
      if levels = 0 then none
      else do
        let (pairs, r) ← readPairs? fuel (levels - 1) r
        let entries ← inlineEntries? pairs
        some (.table .inline entries, r)
    | t => (ofWord? (readWord t).1).map (·, (readWord t).2)

/-- Items up to the closing bracket; a comma may stand after the last. -/
def readItems? (fuel levels : Nat) (t : Text) : Option (List Toml × Text) :=
  match fuel with
  | 0 => none
  | fuel + 1 => do
    match ← skipLines? false t with
    | ']' :: r => some ([], r)
    | t =>
      let (v, r) ← readValue? fuel levels t
      match ← skipLines? false r with
      | ',' :: r => (readItems? fuel levels r).map fun u => (v :: u.1, u.2)
      | ']' :: r => some ([v], r)
      | _ => none

/-- Pairs up to the closing brace; a comma may stand after the last. Keys, equals signs and values
may stand on lines of their own. -/
def readPairs? (fuel levels : Nat) (t : Text) : Option (List (List Text × Toml) × Text) :=
  match fuel with
  | 0 => none
  | fuel + 1 => do
    match ← skipLines? false t with
    | '\x7d' :: r => some ([], r)
    | t =>
      let (keys, r) ← readKeys? maxDepth t
      let '=' :: r := ← skipLines? false r | none
      let (v, r) ← readValue? fuel levels (← skipLines? false r)
      match ← skipLines? false r with
      | ',' :: r => (readPairs? fuel levels r).map fun u => ((keys, v) :: u.1, u.2)
      | '\x7d' :: r => some ([(keys, v)], r)
      | _ => none

end

/-! ### Documents -/

/-- The statement that begins a text, and the text after it. -/
def readStatement? (t : Text) : Option (Statement × Text) :=
  match t with
  | '[' :: '[' :: r => do
    let (keys, r) ← readKeys? maxDepth r
    match r with
    | ']' :: ']' :: r => some (.element keys, r)
    | _ => none
  | '[' :: r => do
    let (keys, r) ← readKeys? maxDepth r
    match r with
    | ']' :: r => some (.header keys, r)
    | _ => none
  | t => do
    let (keys, r) ← readKeys? maxDepth t
    match r with
    | '=' :: r => do
      let (v, r) ← readValue? (2 * t.length + 2) maxDepth (r.dropWhile isBlank)
      some (.pair keys v, r)
    | _ => none

/-- The statements of a text, each on lines of its own. -/
def readStatements? (fuel : Nat) (t : Text) : Option (List Statement) :=
  match fuel with
  | 0 => none
  | fuel + 1 => do
    let t ← skipLines? false t
    if t.isEmpty then some []
    else do
      let (s, r) ← readStatement? t
      (readStatements? fuel (← afterLine? r)).map (s :: ·)

/-- The text without a byte order mark. -/
def dropMark : Text → Text
  | '\ufeff' :: r => r
  | t => t

/-- The entries of a document. -/
def read? (t : Text) : Option Entries := do
  let statements ← readStatements? (t.length + 1) (dropMark t)
  assemble? statements [] []

end SqlTemplate.Toml
