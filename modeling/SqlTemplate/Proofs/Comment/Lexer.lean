import SqlTemplate.Text.Basic

/-! How a database follows the line comments of a text, in the dialect without backslash escapes.
Two dashes outside of quotes open a comment that lasts to the end of the line. A text passes
from one state to another if reading it does so and does not come into a comment on the
way. -/

namespace SqlTemplate

/-- Where in its quotes and comments a text has come to. -/
inductive CommentState where
  | code
  /-- Outside of quotes and comments, right behind a dash. -/
  | dash
  | single
  | double
  | comment
deriving DecidableEq

namespace CommentState

/-- Neither in quotes nor in a comment. -/
def outside : CommentState → Bool
  | .code | .dash => true
  | _ => false

def quoted : CommentState → Bool
  | .single | .double => true
  | _ => false

/-- The state behind a character of code. -/
def enter : Char → CommentState
  | '\'' => .single
  | '"' => .double
  | '-' => .dash
  | _ => .code

def step : CommentState → Char → CommentState
  | .code, c => enter c
  | .dash, c => if c = '-' then .comment else enter c
  | .single, c => if c = '\'' then .code else .single
  | .double, c => if c = '"' then .code else .double
  | .comment, c => if c = '\n' then .code else .comment

/-- The state behind a text. -/
def after (state : CommentState) (t : Text) : CommentState := t.foldl step state

@[simp] theorem after_nil (state : CommentState) : state.after [] = state := rfl

@[simp] theorem after_cons (state : CommentState) (c : Char) (t : Text) :
    state.after (c :: t) = (state.step c).after t := rfl

theorem after_append (state : CommentState) (s t : Text) :
    state.after (s ++ t) = (state.after s).after t :=
  List.foldl_append

/-- Reading a text leads from a state to another, and into a comment at no character. -/
inductive Passes : CommentState → Text → CommentState → Prop
  | nil (state : CommentState) : Passes state [] state
  | cons {state state' : CommentState} {c : Char} {t : Text} :
    state.step c ≠ .comment → Passes (state.step c) t state' → Passes state (c :: t) state'

variable {state state' state'' : CommentState} {s t : Text}

namespace Passes

theorem after_eq (h : Passes state t state') : state.after t = state' := by
  induction h with
  | nil => rfl
  | cons _ _ ih => exact ih

theorem append (hs : Passes state s state') (ht : Passes state' t state'') :
    Passes state (s ++ t) state'' := by
  induction hs with
  | nil => exact ht
  | cons hc _ ih => exact .cons hc (ih ht)

/-- Behind no character of the text a comment is open. -/
theorem ne_comment (h : Passes state t state') {x y : Text} {c : Char} (ht : t = x ++ c :: y) :
    state.after (x ++ [c]) ≠ .comment := by
  induction h generalizing x with
  | nil => simp at ht
  | cons hc _ ih =>
    cases x with
    | nil =>
      obtain ⟨rfl, -⟩ := List.cons.inj ht
      exact hc
    | cons b x =>
      obtain ⟨rfl, htail⟩ := List.cons.inj ht
      exact ih htail

/-- Behind a dash a text is read as elsewhere, unless it is empty or begins with another. -/
theorem of_dash (h : Passes .code t state') (hne : t ≠ []) (hdash : t.head? ≠ some '-') :
    Passes .dash t state' := by
  cases h with
  | nil => exact absurd rfl hne
  | @cons _ _ c t hc ht =>
    have hcd : c ≠ '-' := fun he => hdash (by rw [he]; rfl)
    have hstep : step .dash c = step .code c := if_neg hcd
    rw [← hstep] at hc ht
    exact .cons hc ht

theorem of_forall (h : ∀ c ∈ t, enter c = .code) : Passes .code t .code := by
  induction t with
  | nil => exact .nil _
  | cons c t ih =>
    have hc : step .code c = .code := h c (by simp)
    refine .cons (by rw [hc]; decide) ?_
    rw [hc]
    exact ih fun d hd => h d (by simp [hd])

theorem of_all (h : t.all fun c => enter c = .code) : Passes .code t .code :=
  of_forall fun c hc => of_decide_eq_true (List.all_eq_true.1 h c hc)

theorem flatMap {f : Char → Text} (h : ∀ c, Passes state (f c) state) (t : Text) :
    Passes state (t.flatMap f) state := by
  induction t with
  | nil => exact .nil _
  | cons c t ih => exact (h c).append ih

theorem joined {ts : List Text} (h : ∀ t ∈ ts, Passes .code t .code) :
    Passes .code (Text.joined ts) .code := by
  have hcomma : Passes .code [',', ' '] .code := of_all (by decide)
  induction ts with
  | nil => exact .nil _
  | cons t ts ih =>
    have ht := h t (by simp)
    have ih := ih fun x hx => h x (by simp [hx])
    cases ts with
    | nil => exact ht
    | cons u us => exact ht.append (hcomma.append ih)

end Passes

end CommentState

end SqlTemplate
