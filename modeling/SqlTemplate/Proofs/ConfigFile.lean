import Mathlib.Data.List.TakeWhile
import SqlTemplate.ConfigFile

/-! What a configuration file says, without the order in which its keys are looked at: which keys it
may have, which values each of them takes, and what holds where a key is left out. A
configuration is read from a TOML document exactly if the document describes it; it is
accepted if it keeps two rules besides. -/

namespace SqlTemplate

namespace Toml.Entries

/-- The value of the first entry with a key. -/
def Holds (es : Entries) (name : String) (v : Toml) : Prop :=
  ∃ before after, es = before ++ (name.toList, v) :: after ∧ ∀ e ∈ before, e.1 ≠ name.toList

def Lacks (es : Entries) (name : String) : Prop := ∀ e ∈ es, e.1 ≠ name.toList

variable {es : Entries} {name : String}

theorem find?_eq_some_iff {v : Toml} : es.find? name.toList = some v ↔ es.Holds name v := by
  simp only [find?, Holds, Option.map_eq_some_iff, List.find?_eq_some_iff_append]
  constructor
  · rintro ⟨⟨k, _⟩, ⟨hk, before, after, hes, hbefore⟩, rfl⟩
    obtain rfl : k = name.toList := of_decide_eq_true hk
    exact ⟨before, after, hes, fun e he => by simpa using hbefore e he⟩
  · rintro ⟨before, after, hes, hbefore⟩
    exact ⟨_, ⟨by simp, before, after, hes, fun e he => by simpa using hbefore e he⟩, rfl⟩

theorem find?_eq_none_iff : es.find? name.toList = none ↔ es.Lacks name := by
  simp [find?, Lacks]

end Toml.Entries

namespace ConfigFile

/-! ### Keys -/

/-- No key is other than these. -/
def OnlyKeys (names : List String) (es : Toml.Entries) : Prop :=
  ∀ e ∈ es, ∃ name ∈ names, name.toList = e.1

/-- What a key says: what its value means, or a default where the key is left out. -/
inductive Says {α : Type} (es : Toml.Entries) (name : String) (means : Toml → α → Prop)
    (absent : α) : α → Prop
  | given {v : Toml} {a : α} : es.Holds name v → means v a → Says es name means absent a
  | absent : es.Lacks name → Says es name means absent absent

variable {α : Type} {es : Toml.Entries}

theorem known_iff {names : List String} : known names es ↔ OnlyKeys names es := by
  simp [known, OnlyKeys]

theorem says_iff {name : String} {means : Toml → α → Prop} {absent a : α} :
    Says es name means absent a ↔
      (∃ v, es.find? name.toList = some v ∧ means v a) ∨
        es.find? name.toList = none ∧ a = absent := by
  constructor
  · rintro (⟨hv, ha⟩ | habsent)
    · exact .inl ⟨_, Toml.Entries.find?_eq_some_iff.2 hv, ha⟩
    · exact .inr ⟨Toml.Entries.find?_eq_none_iff.2 habsent, rfl⟩
  · rintro (⟨v, hv, ha⟩ | ⟨habsent, rfl⟩)
    · exact .given (Toml.Entries.find?_eq_some_iff.1 hv) ha
    · exact .absent (Toml.Entries.find?_eq_none_iff.1 habsent)

theorem field?_eq_some_iff {name : String} {read : Toml → Option α} {means : Toml → α → Prop}
    {absent a : α} (hread : ∀ v a, read v = some a ↔ means v a) :
    field? es name read absent = some a ↔ Says es name means absent a := by
  rw [says_iff, field?]
  cases es.find? name.toList <;> simp [hread, eq_comm]

/-! ### Values -/

def IsText (v : Toml) (s : Text) : Prop := v = .string s

def IsFlag (v : Toml) (b : Bool) : Prop := v = .boolean b

def IsLength (v : Toml) (n : Nat) : Prop := v = .integer (some n) ∧ n < UInt64.size

/-- The value that a key has to have means something, so that the key is not left out. -/
def IsSome (means : Toml → α → Prop) (v : Toml) (o : Option α) : Prop := ∃ a, o = some a ∧ means v a

inductive DialectName : Text → Dialect → Prop
  | mysql : DialectName "mysql".toList .mysql
  | ansi : DialectName "ansi".toList .ansi

/-- A dialect by its name, which may be the key of an empty table or array. -/
inductive IsDialect : Toml → Dialect → Prop
  | name {t : Text} {d : Dialect} : DialectName t d → IsDialect (.string t) d
  | table {form form' : Toml.Form} {t : Text} {d : Dialect} :
    DialectName t d → IsDialect (.table form [(t, .table form' [])]) d
  | array {form : Toml.Form} {t : Text} {d : Dialect} :
    DialectName t d → IsDialect (.table form [(t, .array [])]) d

/-- The section on logging by its keys, or by its values in order. -/
inductive IsLog : Toml → LogSection → Prop
  | table {form : Toml.Form} {es : Toml.Entries} {level : Text} {maxSqlLength : Option Nat}
      {logSql : Bool} : OnlyKeys ["level", "max_sql_length", "log_sql"] es →
    Says es "level" IsText "warn".toList level →
    Says es "max_sql_length" (IsSome IsLength) none maxSqlLength →
    Says es "log_sql" IsFlag true logSql → IsLog (.table form es) ⟨level, maxSqlLength, logSql⟩
  | two {level : Text} {v : Toml} {n : Nat} : IsLength v n →
    IsLog (.array [.string level, v]) ⟨level, some n, true⟩
  | three {level : Text} {v : Toml} {n : Nat} {logSql : Bool} (rest : List Toml) : IsLength v n →
    IsLog (.array (.string level :: v :: .boolean logSql :: rest)) ⟨level, some n, logSql⟩

/-- A document says what a configuration holds, and nothing else. -/
structure Describes (es : Toml.Entries) (c : ConfigFile) : Prop where
  keys : OnlyKeys ["dialect", "skip_token", "log"] es
  dialect : Says es "dialect" IsDialect .mysql c.dialect
  skipToken : Says es "skip_token" (IsSome IsText) none c.skipToken
  log : Says es "log" IsLog ⟨"warn".toList, none, true⟩ c.log

variable {v : Toml}

theorem text?_eq_some_iff {s : Text} : text? v = some s ↔ IsText v s := by
  cases v <;> simp [text?, IsText]

theorem flag?_eq_some_iff {b : Bool} : flag? v = some b ↔ IsFlag v b := by
  cases v <;> simp [flag?, IsFlag]

theorem length?_eq_some_iff {n : Nat} : length? v = some n ↔ IsLength v n := by
  unfold length? IsLength
  split
  next m =>
    simp only [Option.ite_none_right_eq_some, Option.some.injEq, Toml.integer.injEq,
      Bool.and_eq_true, decide_eq_true_eq]
    omega
  next hne => simpa using fun hv => absurd hv (hne _)

theorem map_some_eq_some_iff {read : Toml → Option α} {means : Toml → α → Prop}
    (hread : ∀ a, read v = some a ↔ means v a) {o : Option α} :
    (read v).map some = some o ↔ IsSome means v o := by
  simp only [Option.map_eq_some_iff, IsSome, hread]
  exact exists_congr fun a => and_comm.trans (and_congr_left' eq_comm)

theorem dialectNamed?_eq_some_iff {t : Text} {d : Dialect} :
    dialectNamed? t = some d ↔ DialectName t d := by
  constructor
  · intro h
    have hname : d.name.toList = t := by simpa using List.find?_some h
    rw [← hname]
    cases d
    · exact .mysql
    · exact .ansi
  · rintro ⟨⟩ <;> rfl

theorem dialect?_eq_some_iff {d : Dialect} : dialect? v = some d ↔ IsDialect v d := by
  constructor
  · intro h
    unfold dialect? at h
    split at h
    next => exact .name (dialectNamed?_eq_some_iff.1 h)
    next => exact .table (dialectNamed?_eq_some_iff.1 h)
    next => exact .array (dialectNamed?_eq_some_iff.1 h)
    next => cases h
  · rintro (h | h | h) <;> exact dialectNamed?_eq_some_iff.2 h

theorem logSection?_table {form : Toml.Form} {l : LogSection} :
    logSection? (.table form es) = some l ↔ IsLog (.table form es) l := by
  have hlevel {a : Text} :
      field? es "level" text? LogSection.default.level = some a ↔
        Says es "level" IsText "warn".toList a :=
    field?_eq_some_iff fun _ _ => text?_eq_some_iff
  have hmax {a : Option Nat} :
      field? es "max_sql_length" (fun v => (length? v).map some) none = some a ↔
        Says es "max_sql_length" (IsSome IsLength) none a :=
    field?_eq_some_iff fun _ _ => map_some_eq_some_iff fun _ => length?_eq_some_iff
  have hlogSql {a : Bool} :
      field? es "log_sql" flag? true = some a ↔ Says es "log_sql" IsFlag true a :=
    field?_eq_some_iff fun _ _ => flag?_eq_some_iff
  simp only [logSection?, Option.ite_none_right_eq_some, known_iff, Option.bind_eq_bind,
    Option.bind_eq_some_iff, hlevel, hmax, hlogSql, Option.some.injEq]
  constructor
  · rintro ⟨hkeys, level, hlevel, max, hmax, logSql, hlogSql, rfl⟩
    exact .table hkeys hlevel hmax hlogSql
  · rintro (⟨hkeys, hlevel, hmax, hlogSql⟩)
    exact ⟨hkeys, _, hlevel, _, hmax, _, hlogSql, rfl⟩

theorem logSection?_array {items : List Toml} {l : LogSection} :
    logSection? (.array items) = some l ↔ IsLog (.array items) l := by
  constructor
  · intro h
    rcases items with _ | ⟨level, _ | ⟨v, rest⟩⟩
    · cases h
    · cases h
    · obtain ⟨t, ht, hlength⟩ := Option.bind_eq_some_iff.1 h
      obtain ⟨n, hn, hflag⟩ := Option.bind_eq_some_iff.1 hlength
      obtain rfl := text?_eq_some_iff.1 ht
      cases rest with
      | nil =>
        cases hflag
        exact .two (length?_eq_some_iff.1 hn)
      | cons flag rest =>
        obtain ⟨logSql, hlogSql, hl⟩ := Option.bind_eq_some_iff.1 hflag
        cases hl
        obtain rfl := flag?_eq_some_iff.1 hlogSql
        exact .three rest (length?_eq_some_iff.1 hn)
  · rintro (_ | hn | ⟨rest, hn⟩)
    · simp [logSection?, text?, length?_eq_some_iff.2 hn]
    · simp [logSection?, text?, flag?, length?_eq_some_iff.2 hn]

theorem logSection?_eq_some_iff {l : LogSection} : logSection? v = some l ↔ IsLog v l := by
  cases v with
  | table form es => exact logSection?_table
  | array items => exact logSection?_array
  | _ =>
    constructor
    · rintro ⟨⟩
    · rintro ⟨⟩

theorem ofToml?_eq_some_iff {c : ConfigFile} : ofToml? es = some c ↔ Describes es c := by
  have hdialect {a : Dialect} :
      field? es "dialect" dialect? .default = some a ↔ Says es "dialect" IsDialect .mysql a :=
    field?_eq_some_iff fun _ _ => dialect?_eq_some_iff
  have htoken {a : Option Text} :
      field? es "skip_token" (fun v => (text? v).map some) none = some a ↔
        Says es "skip_token" (IsSome IsText) none a :=
    field?_eq_some_iff fun _ _ => map_some_eq_some_iff fun _ => text?_eq_some_iff
  have hlog {a : LogSection} :
      field? es "log" logSection? .default = some a ↔
        Says es "log" IsLog ⟨"warn".toList, none, true⟩ a :=
    field?_eq_some_iff fun _ _ => logSection?_eq_some_iff
  simp only [ofToml?, Option.ite_none_right_eq_some, known_iff, Option.bind_eq_bind,
    Option.bind_eq_some_iff, hdialect, htoken, hlog, Option.some.injEq]
  constructor
  · rintro ⟨hkeys, d, hd, token, htoken, log, hlog, rfl⟩
    exact ⟨hkeys, hd, htoken, hlog⟩
  · rintro ⟨hkeys, hd, htoken, hlog⟩
    exact ⟨hkeys, _, hd, _, htoken, _, hlog, rfl⟩

/-! ### Rules -/

/-- A skip token is not empty, and a level is not blank. -/
structure Valid (c : ConfigFile) : Prop where
  skipToken : c.skipToken ≠ some []
  level : ∃ ch ∈ c.log.level, Text.isBlank ch = false

/-- A text is the TOML document of a configuration, whether it keeps the rules or not. -/
def WellFormed (F : Formats) (raw : Text) (c : ConfigFile) : Prop :=
  ∃ es, F.toml raw = .ok es ∧ Describes es c

variable {c c' : ConfigFile}

theorem trim_eq_nil_iff {t : Text} : t.trim = [] ↔ ∀ ch ∈ t, Text.isBlank ch := by
  constructor
  · intro h ch hch
    have hrest : ∀ d ∈ t.dropWhile Text.isBlank, Text.isBlank d := by
      simpa [Text.trim, List.dropWhile_eq_nil_iff] using h
    rw [← List.takeWhile_append_dropWhile (p := Text.isBlank) (l := t)] at hch
    rcases List.mem_append.1 hch with hch | hch
    · exact List.mem_takeWhile_imp hch
    · exact hrest ch hch
  · intro h
    rw [Text.trim, List.dropWhile_eq_nil_iff.2 h]
    rfl

theorem valid_iff : Valid c ↔ c.skipToken ≠ some [] ∧ c.log.level.trim ≠ [] := by
  have hlevel : c.log.level.trim ≠ [] ↔ ∃ ch ∈ c.log.level, Text.isBlank ch = false := by
    simp [Ne, trim_eq_nil_iff]
  rw [hlevel]
  exact ⟨fun h => ⟨h.skipToken, h.level⟩, fun h => ⟨h.1, h.2⟩⟩

theorem valid_default : Valid .default := valid_iff.2 ⟨by decide, by decide⟩

theorem validate_eq_ok_iff : c.validate = .ok c' ↔ Valid c ∧ c' = c := by
  rw [valid_iff, validate]
  split
  next htoken => simp [htoken]
  next htoken =>
    split
    next hlevel => simp [List.isEmpty_iff.1 hlevel]
    next hlevel => simp [htoken, List.isEmpty_iff.not.1 hlevel, eq_comm]

theorem read_eq_ok_iff {F : Formats} {raw : Text} :
    read F raw = .ok c ↔ WellFormed F raw c ∧ Valid c := by
  unfold read WellFormed
  cases F.toml raw with
  | error cause => simp
  | ok es =>
    simp only [Except.ok.injEq, exists_eq_left']
    cases hes : ofToml? es with
    | none =>
      have hnone : ¬ Describes es c := fun h => by
        rw [ofToml?_eq_some_iff.2 h] at hes
        cases hes
      simp [hnone]
    | some c₀ =>
      have hsome : Describes es c ↔ c₀ = c := by
        rw [← ofToml?_eq_some_iff, hes, Option.some.injEq]
      simp only [validate_eq_ok_iff, hsome]
      constructor
      · rintro ⟨hvalid, rfl⟩
        exact ⟨rfl, hvalid⟩
      · rintro ⟨rfl, hvalid⟩
        exact ⟨hvalid, rfl⟩

theorem WellFormed.unique {F : Formats} {raw : Text} (h : WellFormed F raw c)
    (h' : WellFormed F raw c') : c = c' := by
  obtain ⟨es, hes, hc⟩ := h
  obtain ⟨es', hes', hc'⟩ := h'
  obtain rfl := Except.ok.inj (hes.symm.trans hes')
  exact Option.some.inj ((ofToml?_eq_some_iff.2 hc).symm.trans (ofToml?_eq_some_iff.2 hc'))

end ConfigFile

end SqlTemplate
