import SqlTemplate.Dialect

/-! How a database follows the quotes of a text. A quote character opens a quoted stretch that
the same character closes; where a dialect has backslash escapes, the character after a
backslash is passed over in strings. A text is neutral if it leaves no quote open. -/

namespace SqlTemplate

/-- Where in its quotes a text has come to. -/
inductive QuoteState where
  | code
  | quoted (quote : Char)
  | escaped (quote : Char)
deriving DecidableEq

namespace Dialect

/-- The characters that open a quoted stretch. -/
def quotes : Dialect → List Char
  | .mysql => ['\'', '"', '\x60']
  | .ansi => ['\'', '"']

/-- Whether a backslash escapes the next character within this quote. -/
def hasEscapes : Dialect → Char → Bool
  | .mysql, quote => quote != '\x60'
  | .ansi, _ => false

def step (d : Dialect) : QuoteState → Char → QuoteState
  | .code, c => if c ∈ d.quotes then .quoted c else .code
  | .quoted quote, c =>
    if c = quote then .code
    else if c = '\\' && d.hasEscapes quote then .escaped quote else .quoted quote
  | .escaped quote, _ => .quoted quote

/-- The state after a text. -/
def lex (d : Dialect) (state : QuoteState) (t : Text) : QuoteState := t.foldl d.step state

/-- The text begins and ends outside quotes. -/
def Neutral (d : Dialect) (t : Text) : Prop := d.lex .code t = .code

instance (d : Dialect) (t : Text) : Decidable (d.Neutral t) := inferInstanceAs (Decidable (_ = _))

variable {d : Dialect} {s t : Text}

@[simp] theorem lex_nil (state : QuoteState) : d.lex state [] = state := rfl

@[simp] theorem lex_cons (state : QuoteState) (c : Char) (t : Text) :
    d.lex state (c :: t) = d.lex (d.step state c) t := rfl

theorem lex_append (state : QuoteState) (s t : Text) :
    d.lex state (s ++ t) = d.lex (d.lex state s) t :=
  List.foldl_append

/-! ### Neutral texts -/

theorem Neutral.lex (h : d.Neutral t) : d.lex .code t = .code := h

theorem Neutral.append (hs : d.Neutral s) (ht : d.Neutral t) : d.Neutral (s ++ t) := by
  rw [Neutral, lex_append, hs.lex, ht.lex]

theorem neutral_of_forall (h : ∀ c ∈ t, c ∉ d.quotes) : d.Neutral t := by
  induction t with
  | nil => rfl
  | cons c t ih =>
    have hc : d.step .code c = .code := if_neg (h c (by simp))
    rw [Neutral, lex_cons, hc]
    exact ih fun x hx => h x (by simp [hx])

theorem neutral_joined {ts : List Text} (h : ∀ t ∈ ts, d.Neutral t) :
    d.Neutral (Text.joined ts) := by
  have hcomma : d.Neutral [',', ' '] := by cases d <;> decide
  induction ts with
  | nil => rfl
  | cons t ts ih =>
    have ht := h t (by simp)
    have ih := ih fun x hx => h x (by simp [hx])
    cases ts with
    | nil => exact ht
    | cons u us => exact ht.append (hcomma.append ih)

/-! ### What the escapers write -/

/-- Text whose characters are each written so that they stay within the quotes stays there. -/
theorem lex_flatMap {state : QuoteState} {f : Char → Text}
    (h : ∀ c ∈ t, d.lex state (f c) = state) : d.lex state (t.flatMap f) = state := by
  induction t with
  | nil => rfl
  | cons c t ih =>
    rw [List.flatMap_cons, lex_append, h c (by simp)]
    exact ih fun x hx => h x (by simp [hx])

theorem neutral_enclosed {quote : Char} (hq : quote ∈ d.quotes)
    (h : d.lex (.quoted quote) t = .quoted quote) : d.Neutral (quote :: t ++ [quote]) := by
  rw [Neutral, List.cons_append, lex_cons, lex_append, step, if_pos hq, h]
  simp [step]

/-- A backslash form passes for one character of a string. -/
theorem lex_backslashed (c : Char) :
    mysql.lex (.quoted '\'') (Escaper.backslashed c) = .quoted '\'' := by
  unfold Escaper.backslashed
  split <;> try rfl
  next hbackslash hquote _ _ =>
    have hb : c ≠ '\\' := hbackslash
    have hq : c ≠ '\'' := hquote
    simp [step, hb, hq]

theorem lex_doubled {quote : Char} (hq : quote ∈ quotes .ansi) (c : Char) :
    ansi.lex (.quoted quote) (if c = quote then [c, c] else [c]) = .quoted quote := by
  split
  next h => simp [step, h, hq]
  next h => simp [step, h, hasEscapes]

theorem neutral_string (d : Dialect) (s : Text) :
    d.Neutral ('\'' :: d.escaper.escape s ++ ['\'']) := by
  refine neutral_enclosed (by cases d <;> decide) ?_
  cases d with
  | mysql =>
    show mysql.lex _ (Escaper.mysql.escape s) = _
    rw [Escaper.mysql_escape]
    exact lex_flatMap fun c _ => lex_backslashed c
  | ansi =>
    show ansi.lex _ (Escaper.ansi.escape s) = _
    rw [Escaper.ansi_escape]
    exact lex_flatMap fun c _ => lex_doubled (by decide) c

/-- Names are closed as they are opened, but back-ticks are not escaped. -/
theorem neutral_identifier {name : Text} (h : d = .mysql → '\x60' ∉ name) :
    d.Neutral (d.escaper.identifier name) := by
  cases d with
  | mysql =>
    refine neutral_enclosed (t := name) (by decide) ?_
    have hname : ∀ c ∈ name, mysql.lex (.quoted '\x60') [c] = .quoted '\x60' := fun c hc => by
      have hne : c ≠ '\x60' := fun he => h rfl (he ▸ hc)
      simp [step, hne, hasEscapes]
    simpa using lex_flatMap hname
  | ansi => exact neutral_enclosed (by decide) (lex_flatMap fun c _ => lex_doubled (by decide) c)

end Dialect

end SqlTemplate
