import SqlTemplate.Template.Build
import SqlTemplate.Template.Outline

/-! Templates read character by character. Tokens are cut so that every question mark and
every brace is one of its own, the letter after a question mark aside; building and
outlining are restated as steps on the text itself, one for each kind of character, and
`scanInduction` is the induction that follows these steps. -/

namespace SqlTemplate

/-- The placeholder that a question mark makes in front of a text. -/
def Placeholder.before : Text → Placeholder
  | [] => .generic
  | c :: _ => (ofSuffix? c).getD .generic

namespace Template

def isBrace (c : Char) : Bool := c = '\x7b' || c = '\x7d'

/-- The characters that are not literal text. -/
def isMark (c : Char) : Bool := c = '?' || isBrace c

/-- The type letter a text begins with, if it does. -/
def suffixOf : Text → Text
  | [] => []
  | c :: _ => if (Placeholder.ofSuffix? c).isSome then [c] else []

/-- The text after its type letter. -/
def afterSuffix : Text → Text
  | [] => []
  | c :: r => if (Placeholder.ofSuffix? c).isSome then r else c :: r

/-! ### Marks -/

theorem isBrace_eq_false {c : Char} (ho : c ≠ '\x7b') (hc : c ≠ '\x7d') : isBrace c = false := by
  simp [isBrace, ho, hc]

theorem isBrace_of_isMark {c : Char} (h : isMark c = false) : isBrace c = false := by
  simp only [isMark, Bool.or_eq_false_iff] at h
  exact h.2

theorem ne_question_of_isMark {c : Char} (h : isMark c = false) : c ≠ '?' := by
  rintro rfl
  simp [isMark] at h

/-! ### Type letters -/

theorem isMark_of_ofSuffix? {c : Char} (h : (Placeholder.ofSuffix? c).isSome) :
    isMark c = false := by
  unfold Placeholder.ofSuffix? at h
  split at h <;> first | rfl | simp at h

@[simp] theorem suffixOf_append_afterSuffix (r : Text) : suffixOf r ++ afterSuffix r = r := by
  cases r with
  | nil => rfl
  | cons c r =>
    simp only [suffixOf, afterSuffix]
    split <;> rfl

theorem length_afterSuffix_le (r : Text) : (afterSuffix r).length ≤ r.length := by
  have h := congrArg List.length (suffixOf_append_afterSuffix r)
  rw [List.length_append] at h
  omega

theorem isMark_of_mem_suffixOf {r : Text} {c : Char} (h : c ∈ suffixOf r) : isMark c = false := by
  cases r with
  | nil => simp [suffixOf] at h
  | cons d r =>
    simp only [suffixOf] at h
    split at h
    next hd =>
      obtain rfl := List.mem_singleton.1 h
      exact isMark_of_ofSuffix? hd
    next => simp at h

theorem source_of_ofSuffix? {c : Char} {kind : Placeholder}
    (h : Placeholder.ofSuffix? c = some kind) : kind.source = ['?', c] := by
  unfold Placeholder.ofSuffix? at h
  split at h <;> first | cases h; rfl | simp at h

theorem source_before (r : Text) : (Placeholder.before r).source = '?' :: suffixOf r := by
  cases r with
  | nil => rfl
  | cons c r =>
    cases h : Placeholder.ofSuffix? c with
    | none => simp [Placeholder.before, suffixOf, h, Placeholder.source]
    | some kind => simp [Placeholder.before, suffixOf, h, source_of_ofSuffix? h]

/-- A mark after a question mark is no type letter. -/
theorem before_cons_of_isMark {c : Char} (h : isMark c) (r : Text) :
    Placeholder.before (c :: r) = .generic := by
  cases hs : Placeholder.ofSuffix? c with
  | none => simp [Placeholder.before, hs]
  | some kind => simp [isMark_of_ofSuffix? (c := c) (by simp [hs])] at h

theorem afterSuffix_cons_of_isMark {c : Char} (h : isMark c) (r : Text) :
    afterSuffix (c :: r) = c :: r := by
  cases hs : Placeholder.ofSuffix? c with
  | none => simp [afterSuffix, hs]
  | some kind => simp [isMark_of_ofSuffix? (c := c) (by simp [hs])] at h

/-! ### Tokens of a text by its first character -/

@[simp] theorem utf8Size_opening : Char.utf8Size '\x7b' = 1 := rfl

@[simp] theorem utf8Size_closing : Char.utf8Size '\x7d' = 1 := rfl

@[simp] theorem tokens_opening (r : Text) : tokens ('\x7b' :: r) = .openBlock :: tokens r := rfl

@[simp] theorem tokens_closing (r : Text) : tokens ('\x7d' :: r) = .closeBlock :: tokens r := rfl

theorem tokens_question (r : Text) :
    tokens ('?' :: r) = .placeholder (Placeholder.before r) :: tokens (afterSuffix r) := by
  cases r with
  | nil => rfl
  | cons c r =>
    rw [tokens]
    cases h : Placeholder.ofSuffix? c <;> simp [Placeholder.before, afterSuffix, h]

theorem tokens_literal {c : Char} (h : isMark c = false) (r : Text) :
    tokens (c :: r) = prependLiteral c (tokens r) := by
  simp only [isMark, isBrace, Bool.or_eq_false_iff, decide_eq_false_iff_not] at h
  obtain ⟨hq, ho, hc⟩ := h
  rw [tokens] <;> simp_all

/-- Induction along the reading of a template: a question mark is passed with its type letter. -/
@[elab_as_elim]
theorem scanInduction {motive : Text → Prop} (nil : motive [])
    (opening : ∀ r, motive r → motive ('\x7b' :: r))
    (closing : ∀ r, motive r → motive ('\x7d' :: r))
    (question : ∀ r, motive (afterSuffix r) → motive ('?' :: r))
    (literal : ∀ c r, isMark c = false → motive r → motive (c :: r)) : ∀ t, motive t
  | [] => nil
  | c :: r => by
    have ih := scanInduction nil opening closing question literal r
    by_cases hq : c = '?'
    · subst hq
      exact question r (scanInduction nil opening closing question literal (afterSuffix r))
    by_cases ho : c = '\x7b'
    · subst ho; exact opening r ih
    by_cases hc : c = '\x7d'
    · subst hc; exact closing r ih
    exact literal c r (by simp [isMark, isBrace, hq, ho, hc]) ih
termination_by t => t.length
decreasing_by all_goals have := length_afterSuffix_le r; simp; try omega

/-! ### Building, on the text -/

/-- Renders a text that starts at byte `p` of its template. -/
def renderText (e : Escaper) (p : Nat) (t : Text) (args : List Value) (index : Nat)
    (block : Option Block) : Except TemplateError Text :=
  renderFrom e (place p (tokens t)) args index block

/-- Writes a text into the block that is open, or in front of what follows. -/
def emit (w : Text) (rest : Option Block → Except TemplateError Text) :
    Option Block → Except TemplateError Text
  | none => (rest none).map (w ++ ·)
  | some b => rest (some (b.write w))

variable {e : Escaper} {p index : Nat} {args : List Value}

theorem build_eq_renderText (e : Escaper) (t : Text) (args : List Value) :
    build e t args = renderText e 0 t args 0 none := rfl

@[simp] theorem renderText_nil_unclosed (b : Block) :
    renderText e p [] args index (some b) = .error (.unmatchedOpen b.position) := rfl

@[simp] theorem renderText_nil_complete : renderText e p [] [] index none = .ok [] := rfl

@[simp] theorem renderText_nil_surplus (arg : Value) :
    renderText e p [] (arg :: args) index none =
      .error (.tooManyArguments index (index + (arg :: args).length)) := rfl

@[simp] theorem renderText_opening_outside (r : Text) :
    renderText e p ('\x7b' :: r) args index none =
      renderText e (p + 1) r args index (some (.opened p)) := rfl

@[simp] theorem renderText_opening_inside (r : Text) (b : Block) :
    renderText e p ('\x7b' :: r) args index (some b) = .error (.nesting p) := rfl

@[simp] theorem renderText_closing_outside (r : Text) :
    renderText e p ('\x7d' :: r) args index none = .error (.unmatchedClose p) := rfl

@[simp] theorem renderText_closing_inside (r : Text) (b : Block) :
    renderText e p ('\x7d' :: r) args index (some b) =
      (renderText e (p + 1) r args index none).map (b.output ++ ·) := rfl

@[simp] theorem renderText_question_missing (r : Text) (block : Option Block) :
    renderText e p ('?' :: r) [] index block =
      .error (.missingArgument (Placeholder.before r) p) := by
  rw [renderText, tokens_question]
  rfl

theorem renderText_question_skip_outside (r : Text) :
    renderText e p ('?' :: r) (.skip :: args) index none = .error (.invalidSkip index p) := by
  rw [renderText, tokens_question]
  rfl

theorem renderText_question_skip_inside (r : Text) (b : Block) :
    renderText e p ('?' :: r) (.skip :: args) index (some b) =
      renderText e (p + Text.size ('?' :: suffixOf r)) (afterSuffix r) args (index + 1)
        (some b.suppress) := by
  rw [renderText, tokens_question, ← source_before]
  rfl

theorem renderText_question_refused {arg : Value} (hs : arg.isSkip = false) {r : Text}
    {reason : Refusal} (hf : fragment e (Placeholder.before r) arg = .error reason)
    (block : Option Block) :
    renderText e p ('?' :: r) (arg :: args) index block =
      .error (.refused (Placeholder.before r) p reason) := by
  rw [renderText, tokens_question]
  cases block <;> simp [place, renderFrom, hs, hf]

theorem renderText_question_bound {arg : Value} (hs : arg.isSkip = false) {r w : Text}
    (hf : fragment e (Placeholder.before r) arg = .ok w) (block : Option Block) :
    renderText e p ('?' :: r) (arg :: args) index block =
      emit w (renderText e (p + Text.size ('?' :: suffixOf r)) (afterSuffix r) args (index + 1))
        block := by
  rw [renderText, tokens_question, ← source_before]
  cases block <;> simp [place, renderFrom, hs, hf] <;> rfl

/-- Only the position, the text and the visibility of the open block matter, not how
it was written. -/
theorem renderFrom_block_congr {b b' : Block} (hp : b.position = b'.position)
    (ht : b.text = b'.text) (hs : b.shown = b'.shown) (ts : List (Nat × Token)) :
    renderFrom e ts args index (some b) = renderFrom e ts args index (some b') := by
  induction ts generalizing b b' args index with
  | nil => simp [renderFrom, hp]
  | cons t ts ih =>
    obtain ⟨p, t⟩ := t
    cases t with
    | literal run =>
      simp only [renderFrom]
      exact ih hp (by simp [ht]) hs
    | openBlock => rfl
    | closeBlock => simp [renderFrom, Block.output, ht, hs]
    | placeholder kind =>
      cases args with
      | nil => rfl
      | cons arg args =>
        have hskip : renderFrom e ts args (index + 1) (some b.suppress) =
            renderFrom e ts args (index + 1) (some b'.suppress) := ih hp (by simp [ht]) rfl
        have hwrite (w : Text) : renderFrom e ts args (index + 1) (some (b.write w)) =
            renderFrom e ts args (index + 1) (some (b'.write w)) := ih hp (by simp [ht]) hs
        simp [renderFrom, hskip, hwrite]

theorem renderText_literal {c : Char} (h : isMark c = false) (r : Text) (block : Option Block) :
    renderText e p (c :: r) args index block =
      emit [c] (renderText e (p + c.utf8Size) r args index) block := by
  unfold renderText
  rw [tokens_literal h]
  have hsize (run : Text) : p + Text.size (c :: run) = p + c.utf8Size + run.size := by
    simp [Nat.add_assoc]
  -- The character starts a token of its own or lengthens the literal text that follows it.
  rcases tokens r with _ | ⟨⟨run⟩ | _ | _ | kind, ts⟩ <;> cases block
  case cons.literal.none =>
    simp only [prependLiteral, place, emit, renderFrom, Token.source, hsize]
    cases renderFrom e (place (p + c.utf8Size + run.size) ts) args index none <;> rfl
  case cons.literal.some b =>
    simp only [prependLiteral, place, emit, renderFrom, Token.source, hsize]
    apply renderFrom_block_congr
    · rfl
    · simp
    · rfl
  all_goals rfl

/-! ### Outlining, on the text -/

/-- The outline of a text that starts at byte `p` of its template. -/
def outlineText (p : Nat) (t : Text) (block : Option Nat) : Except TemplateError Outline :=
  outlineFrom (place p (tokens t)) block

theorem outline_eq_outlineText (t : Text) : outline t = outlineText 0 t none := rfl

@[simp] theorem outlineText_nil_unclosed (q : Nat) :
    outlineText p [] (some q) = .error (.unmatchedOpen q) := rfl

@[simp] theorem outlineText_nil_complete : outlineText p [] none = .ok .empty := rfl

@[simp] theorem outlineText_opening_outside (r : Text) :
    outlineText p ('\x7b' :: r) none = outlineText (p + 1) r (some p) := rfl

@[simp] theorem outlineText_opening_inside (r : Text) (q : Nat) :
    outlineText p ('\x7b' :: r) (some q) = .error (.nesting p) := rfl

@[simp] theorem outlineText_closing_outside (r : Text) :
    outlineText p ('\x7d' :: r) none = .error (.unmatchedClose p) := rfl

@[simp] theorem outlineText_closing_inside (r : Text) (q : Nat) :
    outlineText p ('\x7d' :: r) (some q) = (outlineText (p + 1) r none).map .addBlock := rfl

theorem outlineText_question (r : Text) (block : Option Nat) :
    outlineText p ('?' :: r) block =
      (outlineText (p + Text.size ('?' :: suffixOf r)) (afterSuffix r) block).map
        (.addSlot ⟨Placeholder.before r, p, block.isSome⟩) := by
  rw [outlineText, tokens_question, ← source_before]
  cases block <;> rfl

theorem outlineText_literal {c : Char} (h : isMark c = false) (r : Text) (block : Option Nat) :
    outlineText p (c :: r) block = outlineText (p + c.utf8Size) r block := by
  unfold outlineText
  rw [tokens_literal h]
  rcases tokens r with _ | ⟨⟨run⟩ | _ | _ | kind, ts⟩ <;> cases block <;>
    simp [prependLiteral, place, outlineFrom, Token.source, Nat.add_assoc]

end Template

end SqlTemplate
