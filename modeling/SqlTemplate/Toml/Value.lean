import SqlTemplate.Text.Basic

/-! TOML documents as data. Tables and arrays remember how they were written, since that
decides what later lines of a document may add to them. -/

namespace SqlTemplate

namespace Toml

/-- How a table was written: in braces, by dotted keys, on the way to the table of a header, or by
a header of its own. -/
inductive Form where
  | inline
  | dotted
  | implied
  | header
deriving DecidableEq

end Toml

/-- Numbers with a fraction and moments in time keep their source text. An integer whose digits
are not all of its base has no value. -/
inductive Toml where
  | string (s : Text)
  | integer (value : Option Int)
  | float (source : Text)
  | boolean (b : Bool)
  | moment (source : Text)
  | array (items : List Toml)
  | tables (items : List Toml)
  | table (form : Toml.Form) (entries : List (Text × Toml))

namespace Toml

abbrev Entries := List (Text × Toml)

def Entries.find? (es : Entries) (k : Text) : Option Toml :=
  (List.find? (fun e => e.1 = k) es).map (·.2)

/-- Changes the entry of a key, or appends one for a key that is not there; `f` may refuse. -/
def alter? (k : Text) (f : Option Toml → Option Toml) : Entries → Option Entries
  | [] => (f none).map fun v => [(k, v)]
  | (l, v) :: es => if l = k then (f (some v)).map fun w =>
      (l, w) :: es else (alter? k f es).map ((l, v) :: ·)

/-- Adds a pair with a dotted key. The tables on the way are those of dotted keys only. -/
def addPair? (v : Toml) : List Text → Entries → Option Entries
  | [], _ => none
  | [k], es => alter? k (fun o => if o.isNone then some v else none) es
  | k :: ks, es =>
    alter? k (fun
      | none => (addPair? v ks []).map (.table .dotted)
      | some (.table .dotted fs) => (addPair? v ks fs).map (.table .dotted)
      | some _ => none) es

/-- Opens the table of a header. It may be there already only if it is implied. -/
def openTable? : List Text → Entries → Option Entries
  | [], _ => none
  | [k], es =>
    alter? k (fun
      | none => some (.table .header [])
      | some (.table .implied fs) => some (.table .header fs)
      | some _ => none) es
  | k :: ks, es =>
    alter? k (fun
      | none => (openTable? ks []).map (.table .implied)
      | some (.table .inline _) => none
      | some (.table form fs) => (openTable? ks fs).map (.table form)
      | some (.tables items) =>
        match items.getLast? with
        | some (.table form fs) => (openTable? ks fs).map fun gs =>
            .tables (items.dropLast ++ [.table form gs])
        | _ => none
      | some _ => none) es

/-- Appends a table to the array of a double header. -/
def openElement? : List Text → Entries → Option Entries
  | [], _ => none
  | [k], es =>
    alter? k (fun
      | none => some (.tables [.table .header []])
      | some (.tables items) => some (.tables (items ++ [.table .header []]))
      | some _ => none) es
  | k :: ks, es =>
    alter? k (fun
      | none => (openElement? ks []).map (.table .implied)
      | some (.table .inline _) => none
      | some (.table form fs) => (openElement? ks fs).map (.table form)
      | some (.tables items) =>
        match items.getLast? with
        | some (.table form fs) => (openElement? ks fs).map fun gs =>
            .tables (items.dropLast ++ [.table form gs])
        | _ => none
      | some _ => none) es

/-- Changes the table that the keys lead to, in an array of tables the last one. -/
def within? (f : Entries → Option Entries) : List Text → Entries → Option Entries
  | [], es => f es
  | k :: ks, es =>
    alter? k (fun
      | some (.table form fs) => (within? f ks fs).map (.table form)
      | some (.tables items) =>
        match items.getLast? with
        | some (.table form fs) => (within? f ks fs).map fun gs =>
            .tables (items.dropLast ++ [.table form gs])
        | _ => none
      | _ => none) es

/-! ### Statements -/

/-- One line of a document, or the lines of one value. -/
inductive Statement where
  | pair (keys : List Text) (value : Toml)
  | header (keys : List Text)
  | element (keys : List Text)

/-- The entries that statements make, with the keys of the header they stand under. -/
def assemble? : List Statement → List Text → Entries → Option Entries
  | [], _, es => some es
  | .pair keys v :: ss, path, es => (within? (addPair? v keys) path es).bind (assemble? ss path)
  | .header keys :: ss, _, es => (openTable? keys es).bind (assemble? ss keys)
  | .element keys :: ss, _, es => (openElement? keys es).bind (assemble? ss keys)

/-- The entries of a table in braces. -/
def inlineEntries? (pairs : List (List Text × Toml)) : Option Entries :=
  pairs.foldlM (fun es p => addPair? p.2 p.1 es) []

end Toml

end SqlTemplate
