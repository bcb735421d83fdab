import SqlTemplate.Proofs.Decimal.ReadBack
import SqlTemplate.Proofs.Quoting.Literal
import SqlTemplate.Proofs.Template.Fragment
import SqlTemplate.Proofs.Template.Shape

/-! Names and map entries read back where quotes are doubled. A name stands between double
quotes, an entry is a name, an equals sign and a scalar literal, and `", "` stands between
two items. The reader follows both kinds of quotes through every entry and finds the names
and literals that were written, whatever quotes and separators they hold themselves. -/

namespace SqlTemplate

open Decimal (Numeral)

/-! ### Items -/

/-- What may stand behind an item: nothing, or a separator and more. -/
def Follows (r : Text) : Prop := r = [] ∨ ∃ t, r = ',' :: ' ' :: t

/-- Reading the items of a text, separated by `", "` and with nothing behind the last,
gives a list. -/
inductive Reads {α : Type} (item? : Text → Option (α × Text)) : Text → List α → Prop
  | last {t : Text} {a : α} : item? t = some (a, []) → Reads item? t [a]
  | more {t r : Text} {a : α} {as : List α} : item? t = some (a, ',' :: ' ' :: r) →
    Reads item? r as → Reads item? t (a :: as)

namespace Reads

variable {α : Type} {item? : Text → Option (α × Text)} {t : Text} {as bs : List α}

/-- There is at most one way to read a text. -/
theorem unique (has : Reads item? t as) (hbs : Reads item? t bs) : as = bs := by
  induction has generalizing bs with
  | last ha =>
    cases hbs with
    | last hb =>
      rw [ha] at hb
      cases hb
      rfl
    | more hb _ =>
      rw [ha] at hb
      cases hb
  | more ha _ ih =>
    cases hbs with
    | last hb =>
      rw [ha] at hb
      cases hb
    | more hb hbs =>
      rw [ha] at hb
      cases hb
      rw [ih hbs]

/-- If each item reads back in front of what may stand behind it, so does a list of items. -/
theorem joined {text : α → Text} (hne : as ≠ [])
    (h : ∀ a ∈ as, ∀ r, Follows r → item? (text a ++ r) = some (a, r)) :
    Reads item? (Text.joined (as.map text)) as := by
  induction as with
  | nil => exact absurd rfl hne
  | cons a as ih =>
    have ha := h a List.mem_cons_self
    cases as with
    | nil =>
      refine .last ?_
      have hlast := ha [] (.inl rfl)
      rwa [List.append_nil] at hlast
    | cons b bs =>
      have hbs := ih (List.cons_ne_nil b bs) fun x hx => h x (List.mem_cons_of_mem a hx)
      exact .more (ha _ (.inr ⟨_, rfl⟩)) hbs

theorem joined_iff {text : α → Text} (hne : as ≠ [])
    (h : ∀ a ∈ as, ∀ r, Follows r → item? (text a ++ r) = some (a, r)) :
    Reads item? (Text.joined (as.map text)) bs ↔ bs = as := by
  constructor
  · exact fun hbs => hbs.unique (joined hne h)
  · rintro rfl
    exact joined hne h

end Reads

variable {r w : Text}

theorem Follows.head?_ne (h : Follows r) {c : Char} (hc : c ≠ ',') : r.head? ≠ some c := by
  rcases h with rfl | ⟨t, rfl⟩
  · simp
  · simpa using hc.symm

theorem Follows.stops (h : Follows r) : Numeral.Stops r := by
  rcases h with rfl | ⟨t, rfl⟩
  · exact Numeral.stops_nil
  · rintro c ⟨⟩
    decide

/-! ### Names, literals and entries -/

namespace Dialect

/-- The name in double quotes that begins a text, and what follows it. -/
def readIdentifier? : Text → Option (Text × Text)
  | '"' :: t => ansi.readQuoted? '"' t
  | _ => none

/-- What follows the scalar literal that begins a text: a number, `NULL` or a text
in single quotes. -/
def afterScalar? (t : Text) : Option Text :=
  ((Numeral.read? t).map Prod.snd).or
  ((Text.after? "NULL".toList t).or ((ansi.readString? t).map Prod.snd))

/-- The scalar literal that begins a text, as it is written, and what follows it. -/
def readScalar? (t : Text) : Option (Text × Text) :=
  (afterScalar? t).map fun r => (t.take (t.length - r.length), r)

/-- The name and the scalar literal of the entry that begins a text, and what follows the entry. -/
def readPair? (t : Text) : Option ((Text × Text) × Text) :=
  (readIdentifier? t).bind fun (key, r) =>
    (Text.after? " = ".toList r).bind fun r =>
      (readScalar? r).map fun (w, r) => ((key, w), r)

theorem readIdentifier?_identifier (name : Text) (hr : r.head? ≠ some '"') :
    readIdentifier? (Escaper.ansi.identifier name ++ r) = some (name, r) := by
  show ansi.readQuoted? '"' (Escaper.doubling '"' name ++ ['"'] ++ r) = some (name, r)
  rw [List.append_assoc]
  exact readQuoted?_flatMap (readQuoted?_doubled rfl) name hr

theorem afterScalar?_numeral {n : Numeral} (hn : n.Valid) (hr : Follows r) :
    afterScalar? (n.text ++ r) = some r := by
  rw [afterScalar?, Numeral.read?_text_append hn hr.stops]
  rfl

theorem afterScalar?_string (s : Text) (hr : Follows r) :
    afterScalar? ('\'' :: Escaper.ansi.escape s ++ ['\''] ++ r) = some r := by
  have hread : ansi.readString? ('\'' :: Escaper.ansi.escape s ++ ['\''] ++ r) = some (s, r) := by
    have hstring : ansi.readString? ('\'' :: Escaper.ansi.escape s ++ '\'' :: r) = some (s, r) :=
      readString?_enclosed ansi s (hr.head?_ne (by decide))
    simpa using hstring
  have hnumeral : Numeral.read? ('\'' :: Escaper.ansi.escape s ++ ['\''] ++ r) = none := rfl
  rw [afterScalar?, hread, hnumeral]
  rfl

/-- What the untyped placeholder writes is a scalar literal. -/
theorem readScalar?_fragment {v : Value} (h : Template.fragment .ansi .generic v = .ok w)
    (hr : Follows r) : readScalar? (w ++ r) = some (w, r) := by
  have hafter : afterScalar? (w ++ r) = some r := by
    obtain ⟨hv, hliteral⟩ := Template.fragment_generic h
    -- Booleans, integers and doubles are numerals, and no numeral goes on into a separator.
    cases v with
    | null =>
      cases hliteral
      rfl
    | bool b =>
      cases hliteral
      obtain ⟨m, hvalid, htext, -⟩ := Decimal.exists_numeral_intText (if b then 1 else 0)
      have hbool : [if b then '1' else '0'] = m.text := by rw [htext]; cases b <;> decide
      rw [hbool]
      exact afterScalar?_numeral hvalid hr
    | int n =>
      cases hliteral
      obtain ⟨m, hvalid, htext, -⟩ := Decimal.exists_numeral_intText n.toInt
      rw [← htext]
      exact afterScalar?_numeral hvalid hr
    | float x =>
      obtain ⟨hx, rfl⟩ := Template.doubleLiteral_eq_ok hliteral
      obtain ⟨m, hvalid, htext, -⟩ := Decimal.exists_numeral_doubleText hx
      rw [← htext]
      exact afterScalar?_numeral hvalid hr
    | str s =>
      cases hliteral
      exact afterScalar?_string s hr
    | list _ | map _ => cases hv
    | skip | host _ => cases hliteral
  rw [readScalar?, hafter]
  simp

/-- A name and a literal as they are written in an entry. -/
def entryText (entry : Text × Text) : Text :=
  Escaper.ansi.identifier entry.1 ++ ' ' :: '=' :: ' ' :: entry.2

theorem readPair?_entryText {v : Value} {key : Text}
    (h : Template.fragment .ansi .generic v = .ok w) (hr : Follows r) :
    readPair? (entryText (key, w) ++ r) = some ((key, w), r) := by
  have hname : readIdentifier? (entryText (key, w) ++ r) =
      some (key, ' ' :: '=' :: ' ' :: (w ++ r)) := by
    have hread := readIdentifier?_identifier key (r := ' ' :: '=' :: ' ' :: (w ++ r)) (by simp)
    simpa [entryText] using hread
  have hequals : Text.after? " = ".toList (' ' :: '=' :: ' ' :: (w ++ r)) = some (w ++ r) := rfl
  rw [readPair?, hname, Option.bind_some]
  simp only [hequals, Option.bind_some, readScalar?_fragment h hr, Option.map_some]

end Dialect

/-! ### Lists of names and entries -/

namespace Template

variable {entries : List (Text × Value)}

theorem fieldNames_names (e : Escaper) (names : List Text) :
    fieldNames e (.list (names.map .str)) = .ok (Text.joined (names.map e.identifier)) := by
  have hnames : (names.map Value.str).mapM nameOf = .ok names := by
    induction names with
    | nil => rfl
    | cons name names ih =>
      rw [List.map_cons, List.mapM_cons, ih]
      rfl
  rw [fieldNames, hnames]
  rfl

theorem reads_names_iff {names read : List Text} (hne : names ≠ []) :
    Reads Dialect.readIdentifier? (Text.joined (names.map Escaper.ansi.identifier)) read ↔
      read = names :=
  Reads.joined_iff hne fun name _ _ hr =>
    Dialect.readIdentifier?_identifier name (hr.head?_ne (by decide))

theorem eq_nil_of_joined_identifiers {names : List Text}
    (h : Text.joined (names.map Escaper.ansi.identifier) = []) : names = [] := by
  by_contra hne
  have hread := (reads_names_iff hne).2 rfl
  rw [h] at hread
  -- Nothing is read from a text that has ended.
  cases hread with
  | last hitem => cases hitem
  | more hitem => cases hitem

theorem eq_of_joined_identifiers {names names' : List Text}
    (h : Text.joined (names.map Escaper.ansi.identifier) =
      Text.joined (names'.map Escaper.ansi.identifier)) : names = names' := by
  by_cases hne : names = []
  · subst hne
    exact (eq_nil_of_joined_identifiers h.symm).symm
  · by_cases hne' : names' = []
    · subst hne'
      exact eq_nil_of_joined_identifiers h
    · have hread := (reads_names_iff hne).2 rfl
      rwa [h, reads_names_iff hne'] at hread

/-- A map entry and how it is read: as its key and what the untyped placeholder writes
for its value. -/
def EntryRead (entry : Text × Value) (read : Text × Text) : Prop :=
  read.1 = entry.1 ∧ fragment .ansi .generic entry.2 = .ok read.2

theorem exists_entryLiterals (h : ∀ entry ∈ entries, ∃ t, fragment .ansi .generic entry.2 = .ok t) :
    ∃ read, List.Forall₂ EntryRead entries read ∧
      entryLiterals .ansi entries = .ok (read.map Dialect.entryText) := by
  induction entries with
  | nil => exact ⟨[], .nil, rfl⟩
  | cons entry entries ih =>
    obtain ⟨key, v⟩ := entry
    obtain ⟨t, ht⟩ := h (key, v) List.mem_cons_self
    obtain ⟨read, hread, hliterals⟩ :=
      ih fun entry hentry => h entry (List.mem_cons_of_mem _ hentry)
    refine ⟨(key, t) :: read, .cons ⟨rfl, ht⟩ hread, ?_⟩
    rw [entryLiterals, (fragment_generic ht).2, hliterals]
    rfl

theorem readPair?_of_mem {read : List (Text × Text)} (h : List.Forall₂ EntryRead entries read) :
    ∀ a ∈ read, ∀ r, Follows r → Dialect.readPair? (Dialect.entryText a ++ r) = some (a, r) := by
  induction h with
  | nil => simp
  | cons hread _ ih =>
    exact List.forall_mem_cons.2 ⟨fun r hr => Dialect.readPair?_entryText hread.2 hr, ih⟩

/-- What is written for names and for map entries where quotes are doubled has one reading: the
names in order, and the entries in order with their keys and what the untyped placeholder writes for
their values. So names that are written alike are the same. -/
theorem names_and_entries_read_back :
    (∀ names : List Text, names ≠ [] → ∃ w, fragment .ansi .field (.list (names.map .str)) = .ok w ∧
      ∀ read, Reads Dialect.readIdentifier? w read ↔ read = names) ∧
    (∀ entries : List (Text × Value), entries ≠ [] →
      (∀ entry ∈ entries, ∃ t, fragment .ansi .generic entry.2 = .ok t) →
      ∃ w written, fragment .ansi .array (.map entries) = .ok w ∧
      List.Forall₂ EntryRead entries written ∧
        ∀ read, Reads Dialect.readPair? w read ↔ read = written) ∧
    Function.Injective fun names : List Text => fragment .ansi .field (.list (names.map .str)) := by
  refine ⟨fun names hne => ?_, fun entries hne hentries => ?_, fun names names' h => ?_⟩
  · exact ⟨_, fieldNames_names .ansi names, fun read => reads_names_iff hne⟩
  · obtain ⟨written, hwritten, hliterals⟩ := exists_entryLiterals hentries
    have hw : fragment .ansi .array (.map entries) =
        .ok (Text.joined (written.map Dialect.entryText)) := by
      show (entryLiterals .ansi entries).map Text.joined = _
      rw [hliterals]
      rfl
    have hnonempty : written ≠ [] := by
      rintro rfl
      exact hne (List.forall₂_nil_right_iff.1 hwritten)
    exact ⟨_, written, hw, hwritten,
      fun read => Reads.joined_iff hnonempty (readPair?_of_mem hwritten)⟩
  · have hnames := fieldNames_names .ansi names
    rw [show fieldNames .ansi (.list (names.map .str)) =
      fieldNames .ansi (.list (names'.map .str)) from h, fieldNames_names] at hnames
    exact (eq_of_joined_identifiers (Except.ok.inj hnames)).symm

/-- Names and texts that look like the ends of names and like entries of their own. -/
theorem names_and_entries_of_hostile_texts :
    (∃ w, fragment .ansi .field (.list (["a\", \"b".toList, "c".toList].map .str)) = .ok w ∧
      Reads Dialect.readIdentifier? w ["a\", \"b".toList, "c".toList]) ∧
    ∃ w, fragment .ansi .array
      (.map [("k\" = 1, \"x".toList, .str "', \"y\" = '".toList), ("k".toList, .null)]) = .ok w ∧
      Reads Dialect.readPair? w
        [("k\" = 1, \"x".toList, "''', \"y\" = '''".toList), ("k".toList, "NULL".toList)] := by
  obtain ⟨hnames, hentries, -⟩ := names_and_entries_read_back
  constructor
  · obtain ⟨w, hw, hread⟩ := hnames ["a\", \"b".toList, "c".toList] (by simp)
    exact ⟨w, hw, (hread _).2 rfl⟩
  · obtain ⟨w, written, hw, hwritten, hread⟩ := hentries
      [("k\" = 1, \"x".toList, .str "', \"y\" = '".toList), ("k".toList, .null)] (by simp)
      (List.forall_mem_cons.2 ⟨⟨_, rfl⟩, List.forall_mem_singleton.2 ⟨_, rfl⟩⟩)
    refine ⟨w, hw, (hread _).2 ?_⟩
    obtain _ | ⟨⟨hkey, hvalue⟩, _ | ⟨⟨hkey', hvalue'⟩, _ | _⟩⟩ := hwritten
    exact List.cons_eq_cons.2 ⟨Prod.ext hkey.symm (Except.ok.inj hvalue),
      List.cons_eq_cons.2 ⟨Prod.ext hkey'.symm (Except.ok.inj hvalue'), rfl⟩⟩

end Template

end SqlTemplate
