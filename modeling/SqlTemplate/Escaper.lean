import SqlTemplate.Text.Basic

/-! How texts and names are made safe for a database. An escaper gives a text the form in
which it can stand between single quotes, and puts a name into identifier quotes. Two
are standard: one escapes with backslashes and quotes names with back-ticks, the other
doubles quotes; any function on texts makes a third kind. -/

namespace SqlTemplate

structure Escaper where
  /-- The text as it stands between single quotes, without them. -/
  escape : Text → Text
  /-- The name with its quotes. -/
  identifier : Text → Text

namespace Escaper

/-- A name between back-ticks, as it is. -/
def backTicked (name : Text) : Text :=
  '\x60' :: name ++ ['\x60']

/-- Every occurrence of a quote is written twice. -/
def doubling (quote : Char) (t : Text) : Text :=
  t.flatMap fun c => if c = quote then [c, c] else [c]

/-- The backslash form of a character, or the character itself if it needs none. -/
def backslashed : Char → Text
  | '\x00' => ['\\', '0']
  | '\n' => ['\\', 'n']
  | '\r' => ['\\', 'r']
  | '\\' => ['\\', '\\']
  | '\'' => ['\\', '\'']
  | '"' => ['\\', '"']
  | '\x1a' => ['\\', 'Z']
  | c => [c]

/-- Whether a character needs a backslash. -/
def needsBackslash (c : Char) : Bool :=
  c = '\x00' || c = '\n' || c = '\r' || c = '\\' || c = '\'' || c = '"' || c = '\x1a'

/-- Backslash escapes and back-ticks. A text in which nothing needs a backslash is taken
as it is. -/
def mysql : Escaper where
  escape t := if t.any needsBackslash then t.flatMap backslashed else t
  identifier := backTicked

/-- Doubled quotes; names stand in double quotes. A text without a single quote is taken
as it is. -/
def ansi : Escaper where
  escape t := if t.contains '\'' then doubling '\'' t else t
  identifier name := '"' :: doubling '"' name ++ ['"']

/-- A function on texts as an escaper; it quotes names with back-ticks. -/
def ofFunction (f : Text → Text) : Escaper where
  escape := f
  identifier := backTicked

/-! ### Texts taken as they are -/

theorem flatMap_eq_self {f : Char → Text} {t : Text} (h : ∀ c ∈ t, f c = [c]) :
    t.flatMap f = t := by
  induction t with
  | nil => rfl
  | cons c t ih =>
    have hc : f c = [c] := h c (by simp)
    have ht : t.flatMap f = t := ih fun d hd => h d (by simp [hd])
    rw [List.flatMap_cons, hc, ht]
    rfl

theorem backslashed_eq_self {c : Char} (h : needsBackslash c = false) : backslashed c = [c] := by
  simp only [needsBackslash, Bool.or_eq_false_iff, decide_eq_false_iff_not] at h
  unfold backslashed
  split <;> simp_all

/-- Taking a text as it is makes no difference to writing each character in its backslash form. -/
theorem mysql_escape (t : Text) : mysql.escape t = t.flatMap backslashed := by
  by_cases h : t.any needsBackslash
  · exact if_pos h
  · have hnone : ∀ c ∈ t, needsBackslash c = false := by simpa using h
    rw [flatMap_eq_self fun c hc => backslashed_eq_self (hnone c hc)]
    exact if_neg h

theorem ansi_escape (t : Text) : ansi.escape t = doubling '\'' t := by
  by_cases h : t.contains '\''
  · exact if_pos h
  · have hnone : '\'' ∉ t := by simpa using h
    have hne : ∀ c ∈ t, c ≠ '\'' := fun c hc he => hnone (he ▸ hc)
    have hsame : doubling '\'' t = t := flatMap_eq_self fun c hc => if_neg (hne c hc)
    rw [hsame]
    exact if_neg h

end Escaper

end SqlTemplate
