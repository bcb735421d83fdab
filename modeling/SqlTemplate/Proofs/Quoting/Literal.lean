import SqlTemplate.Proofs.Quoting.Lexer
import SqlTemplate.Template.Fragment

/-! String literals read back. Within quotes a database takes a quote written twice for one
quote of the text and a lone one for the end; where a dialect has backslash escapes, it
takes the character after a backslash for the one it stands for. The literal that is
written for a text reads back as this text, and the reading ends where the literal does. -/

namespace SqlTemplate.Dialect

variable {d : Dialect} {quote : Char}

/-- The character that one after a backslash stands for. -/
def unescaped : Char → Char
  | '0' => '\x00'
  | 'n' => '\n'
  | 'r' => '\r'
  | 'Z' => '\x1a'
  | c => c

/-- The text of a quoted stretch from behind its first quote on, and what follows the stretch. -/
def readQuoted? (d : Dialect) (quote : Char) : Text → Option (Text × Text)
  | [] => none
  | [c] => if c = quote then some ([], []) else none
  | c :: x :: t =>
    if c = quote then
      if x = quote then (readQuoted? d quote t).map fun p => (quote :: p.1, p.2)
      else some ([], x :: t)
    else if c = '\\' && d.hasEscapes quote then
      (readQuoted? d quote t).map fun p => (unescaped x :: p.1, p.2)
    else (readQuoted? d quote (x :: t)).map fun p => (c :: p.1, p.2)

/-- The text of the single-quoted literal that begins a text, and what follows the literal. -/
def readString? (d : Dialect) : Text → Option (Text × Text)
  | '\'' :: t => d.readQuoted? '\'' t
  | _ => none

/-! ### One character -/

theorem readQuoted?_lone {r : Text} (hr : r.head? ≠ some quote) :
    d.readQuoted? quote (quote :: r) = some ([], r) := by
  cases r with
  | nil => simp [readQuoted?]
  | cons x r =>
    have hx : x ≠ quote := fun he => hr (by rw [he]; rfl)
    simp [readQuoted?, hx]

theorem readQuoted?_twice (t : Text) :
    d.readQuoted? quote (quote :: quote :: t) =
      (d.readQuoted? quote t).map fun p => (quote :: p.1, p.2) := by
  simp [readQuoted?]

theorem readQuoted?_backslash (h : d.hasEscapes quote) (hq : quote ≠ '\\') (x : Char) (t : Text) :
    d.readQuoted? quote ('\\' :: x :: t) =
      (d.readQuoted? quote t).map fun p => (unescaped x :: p.1, p.2) := by
  simp [readQuoted?, h, hq.symm]

theorem readQuoted?_plain {c : Char} (hc : c ≠ quote)
    (h : (c = '\\' && d.hasEscapes quote) = false) (t : Text) :
    d.readQuoted? quote (c :: t) = (d.readQuoted? quote t).map fun p => (c :: p.1, p.2) := by
  cases t with
  | nil => simp [readQuoted?, hc]
  | cons x t => rw [readQuoted?, if_neg hc, h]; rfl

/-! ### What is written for one character -/

theorem readQuoted?_backslashed (c : Char) (t : Text) :
    mysql.readQuoted? '\'' (Escaper.backslashed c ++ t) =
      (mysql.readQuoted? '\'' t).map fun p => (c :: p.1, p.2) := by
  have hescapes : mysql.hasEscapes '\'' := by decide
  unfold Escaper.backslashed
  split
  case h_8 hbackslash hquote _ _ =>
    have hb : c ≠ '\\' := hbackslash
    have hq : c ≠ '\'' := hquote
    exact readQuoted?_plain hq (by simp [hb]) t
  all_goals exact readQuoted?_backslash hescapes (by decide) _ t

theorem readQuoted?_doubled (h : d.hasEscapes quote = false) (c : Char) (t : Text) :
    d.readQuoted? quote ((if c = quote then [c, c] else [c]) ++ t) =
      (d.readQuoted? quote t).map fun p => (c :: p.1, p.2) := by
  split
  next hc =>
    subst hc
    exact readQuoted?_twice t
  next hc => exact readQuoted?_plain hc (by simp [h]) t

/-! ### Whole texts -/

/-- If each character reads back from what is written for it, in front of anything, so does a text
from what is written for it character by character, up to a lone quote. -/
theorem readQuoted?_flatMap {f : Char → Text}
    (hf : ∀ c t, d.readQuoted? quote (f c ++ t) =
      (d.readQuoted? quote t).map fun p => (c :: p.1, p.2)) (s : Text)
    {r : Text} (hr : r.head? ≠ some quote) :
    d.readQuoted? quote (s.flatMap f ++ quote :: r) = some (s, r) := by
  induction s with
  | nil => exact readQuoted?_lone hr
  | cons c s ih => rw [List.flatMap_cons, List.append_assoc, hf, ih]; rfl

/-- Every character of a text in the form that a string of the dialect has for it. -/
def rewritten : Dialect → Text → Text
  | .mysql, t => t.flatMap Escaper.backslashed
  | .ansi, t => Escaper.doubling '\'' t

/-- A text that is taken as it is would not have been rewritten into another. -/
theorem escape_eq_rewritten (d : Dialect) (s : Text) : d.escaper.escape s = d.rewritten s := by
  cases d with
  | mysql => exact Escaper.mysql_escape s
  | ansi => exact Escaper.ansi_escape s

theorem readString?_enclosed (d : Dialect) (s : Text) {r : Text} (hr : r.head? ≠ some '\'') :
    d.readString? ('\'' :: d.escaper.escape s ++ '\'' :: r) = some (s, r) := by
  show d.readQuoted? '\'' (d.escaper.escape s ++ '\'' :: r) = some (s, r)
  rw [escape_eq_rewritten]
  cases d with
  | mysql => exact readQuoted?_flatMap readQuoted?_backslashed s hr
  | ansi => exact readQuoted?_flatMap (readQuoted?_doubled rfl) s hr

/-- Texts that are escaped alike are the same, since their literals read back as either. -/
theorem escape_injective (d : Dialect) : Function.Injective d.escaper.escape := by
  intro s s' h
  have hs := readString?_enclosed d s (r := []) (by simp)
  have hs' := readString?_enclosed d s' (r := []) (by simp)
  rw [h, hs'] at hs
  exact (congrArg Prod.fst (Option.some.inj hs)).symm

/-- The characters that a client may take for the end of a line or of its input. -/
def controls : List Char := ['\x00', '\n', '\r', '\x1a']

theorem not_mem_controls_of_mem_backslashed {c x : Char} (h : x ∈ Escaper.backslashed c) :
    x ∉ controls := by
  unfold Escaper.backslashed at h
  split at h
  case h_8 hnul hlf hcr _ _ _ hsub =>
    obtain rfl := List.mem_singleton.1 h
    have hne : x ≠ '\x00' ∧ x ≠ '\n' ∧ x ≠ '\r' ∧ x ≠ '\x1a' := ⟨hnul, hlf, hcr, hsub⟩
    simpa [controls] using hne
  all_goals
    simp only [List.mem_cons, List.not_mem_nil, or_false] at h
    rcases h with rfl | rfl <;> decide

/-- The literal that an untyped placeholder writes for a text reads back as that text, whatever
follows it but another quote, and the reading stops where the literal ends. So texts that are
escaped alike are the same. A text that is taken as it is would not have been rewritten into
another, and where backslashes are written, no control character is left. -/
theorem readString?_fragment (d : Dialect) (s r : Text) (hr : r.head? ≠ some '\'') :
    (∃ w, Template.fragment d.escaper .generic (.str s) = .ok w ∧
      w = '\'' :: d.escaper.escape s ++ ['\''] ∧ d.readString? (w ++ r) = some (s, r)) ∧
    (∀ s', d.escaper.escape s = d.escaper.escape s' → s = s') ∧
    d.escaper.escape s = d.rewritten s ∧
    (d = .mysql → ∀ c ∈ d.escaper.escape s, c ∉ controls) := by
  refine ⟨⟨'\'' :: d.escaper.escape s ++ ['\''], rfl, rfl, ?_⟩, ?_, escape_eq_rewritten d s, ?_⟩
  · simpa using readString?_enclosed d s hr
  · intro s' h
    exact escape_injective d h
  · rintro rfl c hc
    rw [escape_eq_rewritten] at hc
    obtain ⟨x, -, hx⟩ := List.mem_flatMap.1 hc
    exact not_mem_controls_of_mem_backslashed hx

/-- A text with quotes behind a backslash and behind a NUL, and a backslash at its end. -/
theorem readString?_fragment_of_backslashes :
    " -- '".toList.head? ≠ some '\'' ∧
    ∃ w, Template.fragment Dialect.mysql.escaper .generic (.str "\\'\x00'\\".toList) = .ok w ∧
      w = "'\\\\\\'\\0\\'\\\\'".toList ∧
      mysql.readString? (w ++ " -- '".toList) = some ("\\'\x00'\\".toList, " -- '".toList) := by
  have hr : " -- '".toList.head? ≠ some '\'' := by decide
  obtain ⟨w, hw, rfl, hread⟩ :=
    (readString?_fragment .mysql "\\'\x00'\\".toList " -- '".toList hr).1
  exact ⟨hr, _, hw, by decide, hread⟩

end SqlTemplate.Dialect
