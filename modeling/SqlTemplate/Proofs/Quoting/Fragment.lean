import SqlTemplate.Proofs.Decimal.Characters
import SqlTemplate.Proofs.Quoting.Lexer
import SqlTemplate.Proofs.Template.Fragment
import SqlTemplate.Proofs.Value.Nested

/-! What an argument writes is put together from the literals of scalars and from quoted names, so
what these have and joining keeps, all fragments have. In particular a fragment is neutral:
whatever a placeholder makes of a value, every quote in it is closed again. Only the
names that one dialect puts between back-ticks have to be free of these. -/

namespace SqlTemplate

/-- The names that a placeholder puts into identifier quotes for a value. -/
def Placeholder.identifiers : Placeholder → Value → List Text
  | .array, v => v.keys
  | .field, .str name => [name]
  | .field, .list items => items.filterMap Template.nameOf?
  | _, _ => []

namespace Template

/-- A property that the literals of scalars have and that entries and lists have if
their parts do. -/
structure LiteralClosed (e : Escaper) (p : Text → Prop) : Prop where
  null : p "NULL".toList
  bool (b : Bool) : p [if b then '1' else '0']
  int (n : Int) : p (Decimal.intText n)
  double (x : Binary64) : p (Decimal.doubleText x)
  string (s : Text) : p ('\'' :: e.escape s ++ ['\''])
  entry {name w : Text} : p name → p w → p (name ++ ' ' :: '=' :: ' ' :: w)
  joined {ts : List Text} : (∀ t ∈ ts, p t) → p (Text.joined ts)

variable {e : Escaper} {p : Text → Prop} {v : Value} {w : Text}

namespace LiteralClosed

theorem literal (hp : LiteralClosed e p) (h : Template.literal e v = .ok w)
    (hk : ∀ k ∈ v.keys, p (e.identifier k)) : p w := by
  induction v using Value.nestedInduction generalizing w with
  | leaf v hv =>
    cases v with
    | null => cases h; exact hp.null
    | bool b => cases h; exact hp.bool b
    | int n => cases h; exact hp.int n.toInt
    | float x =>
      obtain ⟨-, rfl⟩ := doubleLiteral_eq_ok h
      exact hp.double x
    | str s => cases h; exact hp.string s
    | list _ | map _ => cases hv
    | skip | host _ => cases h
  | list items ih =>
    obtain ⟨ts, hts, rfl⟩ := map_eq_ok h
    refine hp.joined fun t ht => ?_
    obtain ⟨v, hv, hvt⟩ := mem_itemLiterals hts ht
    exact ih v hv hvt fun k hkv => hk k (Value.mem_itemKeys.2 ⟨v, hv, hkv⟩)
  | map entries ih =>
    obtain ⟨ts, hts, rfl⟩ := map_eq_ok h
    refine hp.joined fun t ht => ?_
    obtain ⟨entry, hentry, w, hw, rfl⟩ := mem_entryLiterals hts ht
    have hname : p (e.identifier entry.1) := hk _ (Value.mem_entryKeys.2 ⟨entry, hentry, .inl rfl⟩)
    have hvalue : p w :=
      ih entry hentry hw fun k hkv => hk k (Value.mem_entryKeys.2 ⟨entry, hentry, .inr hkv⟩)
    exact hp.entry hname hvalue

theorem fieldNames (hp : LiteralClosed e p) (h : Template.fieldNames e v = .ok w)
    (hn : ∀ name ∈ Placeholder.field.identifiers v, p (e.identifier name)) : p w := by
  cases v
  case str name =>
    cases h
    exact hn name (by simp [Placeholder.identifiers])
  case list items =>
    obtain ⟨names, hnames, rfl⟩ := map_eq_ok h
    refine hp.joined fun t ht => ?_
    obtain ⟨name, hname, rfl⟩ := List.mem_map.1 ht
    rw [mapM_nameOf hnames] at hname
    exact hn name hname
  all_goals cases h

/-- Whatever a placeholder writes for a value has the property if the names in it have it. -/
theorem fragment {kind : Placeholder} (hp : LiteralClosed e p)
    (h : Template.fragment e kind v = .ok w)
    (hn : ∀ name ∈ kind.identifiers v, p (e.identifier name)) : p w := by
  cases kind with
  | generic =>
    obtain ⟨hv, h⟩ := fragment_generic h
    have hkeys : v.keys = [] := by cases v <;> first | rfl | cases hv
    exact hp.literal h fun k hk => by simp [hkeys] at hk
  | int =>
    rcases fragment_int h with rfl | rfl
    · exact hp.null
    · exact hp.int _
  | float =>
    rcases fragment_float h with rfl | ⟨-, rfl⟩
    · exact hp.null
    · exact hp.double _
  | array => exact hp.literal (fragment_array h).2 hn
  | field => exact hp.fieldNames (fragment_field h) hn

end LiteralClosed

end Template

namespace Dialect

variable {d : Dialect}

/-- The names can be quoted by the dialect: back-ticks are not escaped. -/
def Quotable (d : Dialect) (names : List Text) : Prop :=
  d = .mysql → ∀ name ∈ names, '\x60' ∉ name

instance (d : Dialect) (names : List Text) :
    Decidable (d.Quotable names) := inferInstanceAs (Decidable (_ → _))

theorem not_mem_quotes_of_isNumeric {c : Char} (h : Decimal.isNumeric c) : c ∉ d.quotes := by
  have hq : d.quotes.all fun c => !Decimal.isNumeric c := by cases d <;> decide
  intro hc
  have hnot := List.all_eq_true.1 hq c hc
  simp [h] at hnot

theorem neutral_intText (d : Dialect) (n : Int) : d.Neutral (Decimal.intText n) :=
  neutral_of_forall fun _ hc => not_mem_quotes_of_isNumeric (Decimal.isNumeric_of_mem_intText hc)

theorem neutral_doubleText (d : Dialect) (x : Binary64) : d.Neutral (Decimal.doubleText x) :=
  neutral_of_forall fun _ hc => not_mem_quotes_of_isNumeric (Decimal.isNumeric_of_mem_doubleText hc)

theorem neutral_null (d : Dialect) : d.Neutral "NULL".toList := by
  cases d <;> decide

theorem literalClosed_neutral (d : Dialect) : Template.LiteralClosed d.escaper d.Neutral where
  null := neutral_null d
  bool b := by cases b <;> cases d <;> decide
  int := neutral_intText d
  double := neutral_doubleText d
  string := neutral_string d
  entry hname hvalue := by
    have hequals : d.Neutral [' ', '=', ' '] := by cases d <;> decide
    exact hname.append (hequals.append hvalue)
  joined := neutral_joined

/-- Whatever a placeholder writes for a value opens no quote that it does not close. -/
theorem neutral_fragment {kind : Placeholder} {v : Value} {w : Text}
    (h : Template.fragment d.escaper kind v = .ok w)
    (hn : d.Quotable (kind.identifiers v)) : d.Neutral w :=
  (literalClosed_neutral d).fragment h fun name hname => neutral_identifier fun hd =>
  hn hd name hname

end Dialect

end SqlTemplate
