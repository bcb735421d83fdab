import Mathlib.Data.List.Induction
import SqlTemplate.Proofs.Outcome
import SqlTemplate.Proofs.Template.Reading

/-! Faults of a template and its arguments, said of single characters. Whether a question
mark or a brace is at fault depends only on the text before it, the letter after it
and the argument it gets. Building fails with the first fault of the text, else with a
fault of its end, and outlining with the first that the braces alone make. -/

namespace SqlTemplate

theorem Value.isSkip_iff {v : Value} : v.isSkip ↔ v = .skip := by
  cases v <;> simp [isSkip]

theorem Value.eq_skip_of_isSkip {v : Value} (h : v.isSkip) : v = .skip := isSkip_iff.1 h

namespace Template

@[simp] theorem failure?_emit (w : Text) (rest : Option Block → Except TemplateError Text)
    (block : Option Block) :
    failure? (emit w rest block) = failure? (rest (block.map (·.write w))) := by
  cases block <;> simp [emit]

/-! ### First faults -/

/-- An element of two lists put together is one of the first or one of the second. -/
theorem append_eq_append_cons {α : Type} {l m u v : List α} {x : α} (h : l ++ m = u ++ x :: v) :
    (∃ u', u = l ++ u' ∧ m = u' ++ x :: v) ∨ ∃ rest, l = u ++ x :: rest ∧ v = rest ++ m := by
  rcases List.append_eq_append_iff.1 h with ⟨u', hu, hm⟩ | ⟨own, hl, hown⟩
  · exact .inl ⟨u', hu, hm⟩
  · rcases List.cons_eq_append_iff.1 hown with ⟨rfl, hm⟩ | ⟨rest, rfl, hv⟩
    · exact .inl ⟨[], by simpa using hl.symm, hm⟩
    · exact .inr ⟨rest, hl, hv⟩

/-- A check of one character, given with the text before it and the text after it. -/
abbrev Check := Text → Char → Text → Option TemplateError

/-- The first fault of a text that stands after `u`. -/
def firstFault (f : Check) : Text → Text → Option TemplateError
  | _, [] => none
  | u, c :: r => (f u c r).or (firstFault f (u ++ [c]) r)

/-- No character of the text is at fault. -/
def Faultless (f : Check) (t : Text) : Prop :=
  ∀ before c after, t = before ++ c :: after → f before c after = none

/-- A character of the text has this fault, and none before it has any. -/
def IsFirstFault (f : Check) (t : Text) (err : TemplateError) : Prop :=
  ∃ before c after, t = before ++ c :: after ∧ f before c after = some err ∧
    ∀ u d v, t = u ++ d :: v → u.length < before.length → f u d v = none

variable {f g : Check}

theorem firstFault_eq_none_iff (u t : Text) :
    firstFault f u t = none ↔ ∀ before c after, t = before ++ c :: after →
    f (u ++ before) c after = none := by
  induction t generalizing u with
  | nil => simp [firstFault]
  | cons c r ih =>
    simp only [firstFault, Option.or_eq_none_iff, ih]
    constructor
    · rintro ⟨hc, hr⟩ before d after h
      rcases before with _ | ⟨b, before⟩
      · cases h; simpa using hc
      · cases h; simpa using hr before d after rfl
    · intro h
      refine ⟨by simpa using h [] c r rfl, ?_⟩
      intro before d after hr
      simpa using h (c :: before) d after (by simp [hr])

theorem firstFault_eq_some_iff (u t : Text) (err : TemplateError) :
    firstFault f u t = some err ↔ ∃ before c after, t = before ++ c :: after ∧
    f (u ++ before) c after = some err ∧
      ∀ b d v, t = b ++ d :: v → b.length < before.length → f (u ++ b) d v = none := by
  induction t generalizing u with
  | nil => simp [firstFault]
  | cons c r ih =>
    simp only [firstFault, Option.or_eq_some_iff, ih]
    constructor
    · rintro (hc | ⟨hc, before, d, after, rfl, hd, hlt⟩)
      · exact ⟨[], c, r, rfl, by simpa using hc, by simp⟩
      · refine ⟨c :: before, d, after, rfl, by simpa using hd, fun b x v hb hl => ?_⟩
        rcases b with _ | ⟨b₀, b⟩
        · cases hb; simpa using hc
        · injection hb with hb₀ hb
          subst hb₀
          simpa using hlt b x v hb (by simpa using hl)
    · rintro ⟨before, d, after, h, hd, hlt⟩
      rcases before with _ | ⟨b₀, before⟩
      · cases h; exact .inl (by simpa using hd)
      · injection h with hb₀ h
        subst hb₀
        refine .inr ⟨by simpa using hlt [] c r rfl (by simp), before, d, after,
          h, by simpa using hd, ?_⟩
        intro b x v hb hl
        simpa using hlt (c :: b) x v (by simp [hb]) (by simpa using hl)

theorem faultless_iff (t : Text) : Faultless f t ↔ firstFault f [] t = none := by
  simp [Faultless, firstFault_eq_none_iff]

theorem isFirstFault_iff (t : Text) (err : TemplateError) :
    IsFirstFault f t err ↔ firstFault f [] t = some err := by
  simp [IsFirstFault, firstFault_eq_some_iff]

theorem firstFault_congr {u t : Text}
    (h : ∀ before c after, t = before ++ c :: after →
      f (u ++ before) c after = g (u ++ before) c after) : firstFault f u t = firstFault g u t := by
  induction t generalizing u with
  | nil => rfl
  | cons c r ih =>
    have hc : f u c r = g u c r := by simpa using h [] c r rfl
    have hr : firstFault f (u ++ [c]) r = firstFault g (u ++ [c]) r := by
      apply ih
      intro before d after hr
      simpa using h (c :: before) d after (by simp [hr])
    rw [firstFault, firstFault, hc, hr]

/-- Characters without faults are passed over. -/
theorem firstFault_append (u : Text) {s r : Text} (h : ∀ c ∈ s, ∀ u v, f u c v = none) :
    firstFault f u (s ++ r) = firstFault f (u ++ s) r := by
  induction s generalizing u with
  | nil => simp
  | cons c s ih =>
    have hs := ih (u ++ [c]) fun d hd => h d (by simp [hd])
    simpa [firstFault, h c (by simp)] using hs

/-! ### The block that is open -/

/-- The position of the last brace if it opens a block, in a text that starts at byte `p`. -/
def openFrom : Nat → Option Nat → Text → Option Nat
  | _, block, [] => block
  | p, block, c :: r =>
    openFrom (p + c.utf8Size) (if c = '\x7b' then some p else if c = '\x7d' then none else block) r

/-- Where the block was opened in which the text ends, if it ends in one. -/
def openIn (t : Text) : Option Nat := openFrom 0 none t

theorem openFrom_append (p : Nat) (block : Option Nat) (s t : Text) :
    openFrom p block (s ++ t) = openFrom (p + s.size) (openFrom p block s) t := by
  induction s generalizing p block with
  | nil => rfl
  | cons c s ih => simp [openFrom, ih, Nat.add_assoc]

@[simp] theorem openIn_nil : openIn [] = none := rfl

@[simp] theorem openIn_append_opening (u : Text) : openIn (u ++ ['\x7b']) = some u.size := by
  simp [openIn, openFrom_append, openFrom]

@[simp] theorem openIn_append_closing (u : Text) : openIn (u ++ ['\x7d']) = none := by
  simp [openIn, openFrom_append, openFrom]

theorem openIn_append_singleton (u : Text) {c : Char} (h : isBrace c = false) :
    openIn (u ++ [c]) = openIn u := by
  simp only [isBrace, Bool.or_eq_false_iff, decide_eq_false_iff_not] at h
  simp [openIn, openFrom_append, openFrom, h]

theorem openIn_append (u : Text) {s : Text} (h : ∀ c ∈ s, isBrace c = false) :
    openIn (u ++ s) = openIn u := by
  induction s generalizing u with
  | nil => simp
  | cons c s ih =>
    have hs := ih (u ++ [c]) fun d hd => h d (by simp [hd])
    rwa [List.append_assoc, List.singleton_append, openIn_append_singleton u (h c (by simp))] at hs

/-- The block is open that the last brace of the text opens. -/
theorem openIn_eq_some_iff (t : Text) (p : Nat) :
    openIn t = some p ↔ ∃ u v, t = u ++ '\x7b' :: v ∧ u.size = p ∧ ∀ c ∈ v, isBrace c = false := by
  constructor
  · intro h
    induction t using List.reverseRecOn with
    | nil => simp at h
    | append_singleton s c ih =>
      by_cases ho : c = '\x7b'
      · subst ho
        exact ⟨s, [], rfl, by simpa using h, by simp⟩
      by_cases hc : c = '\x7d'
      · subst hc
        simp at h
      have hbrace : isBrace c = false := isBrace_eq_false ho hc
      rw [openIn_append_singleton s hbrace] at h
      obtain ⟨u, v, rfl, hp, hv⟩ := ih h
      refine ⟨u, v ++ [c], by simp, hp, ?_⟩
      intro d hd
      rcases List.mem_append.1 hd with hd | hd
      · exact hv d hd
      · rwa [List.mem_singleton.1 hd]
  · rintro ⟨u, v, rfl, rfl, hv⟩
    rw [← List.singleton_append, ← List.append_assoc, openIn_append _ hv, openIn_append_opening]

/-! ### Faults of single characters -/

/-- A brace is at fault if it opens a block inside another, or closes one outside. -/
def braceFault : Check
  | before, '\x7b', _ => (openIn before).map fun _ => .nesting before.size
  | before, '\x7d', _ => if (openIn before).isSome then none else some (.unmatchedClose before.size)
  | _, _, _ => none

/-- A question mark is at fault if no argument is left for it, if it stands outside the blocks and
gets the skip marker, or if its placeholder refuses its argument. -/
def bindingFault (e : Escaper) (args : List Value) (before after : Text) : Option TemplateError :=
  match args[before.count '?']? with
  | none => some (.missingArgument (Placeholder.before after) before.size)
  | some arg =>
    if arg.isSkip then
      if (openIn before).isSome then none else some (.invalidSkip (before.count '?') before.size)
    else
      (failure? (fragment e (Placeholder.before after) arg)).map
        (.refused (Placeholder.before after) before.size)

def fault (e : Escaper) (args : List Value) : Check
  | before, c, after =>
      if c = '?' then bindingFault e args before after else braceFault before c after

/-- A block that is never closed is a fault of the end of a text. -/
def unclosed (t : Text) : Option TemplateError := (openIn t).map .unmatchedOpen

/-- Arguments that no placeholder takes are one too. -/
def surplus (args : List Value) (t : Text) : Option TemplateError :=
  if t.count '?' < args.length then some (.tooManyArguments (t.count '?') args.length) else none

/-- What can be wrong with a question mark. -/
theorem bindingFault_cases {e : Escaper} {args : List Value} {u v : Text} {err : TemplateError}
    (h : bindingFault e args u v = some err) :
    (args[u.count '?']? = none ∧ err = .missingArgument (Placeholder.before v) u.size) ∨
    (args[u.count '?']? = some .skip ∧ openIn u = none ∧ err = .invalidSkip (u.count '?') u.size) ∨
    ∃ arg reason, args[u.count '?']? = some arg ∧ arg.isSkip = false ∧
      fragment e (Placeholder.before v) arg = .error reason ∧
      err = .refused (Placeholder.before v) u.size reason := by
  unfold bindingFault at h
  cases harg : args[u.count '?']? with
  | none =>
    rw [harg] at h
    cases h
    exact .inl ⟨rfl, rfl⟩
  | some arg =>
    rw [harg] at h
    by_cases hs : arg.isSkip
    · obtain rfl := Value.eq_skip_of_isSkip hs
      cases ho : openIn u with
      | none => simp_all [Value.isSkip]
      | some p => simp [ho, Value.isSkip] at h
    · simp only [hs, Bool.false_eq_true, if_false] at h
      obtain ⟨reason, hreason, rfl⟩ := Option.map_eq_some_iff.1 h
      exact .inr (.inr ⟨arg, reason, rfl, by simpa using hs, failure?_eq_some_iff.1 hreason, rfl⟩)

theorem braceFault_of_isMark {c : Char} (h : isMark c = false) (u v : Text) :
    braceFault u c v = none := by
  unfold braceFault
  split <;> first | rfl | simp [isMark, isBrace] at h

theorem fault_of_isMark (e : Escaper) (args : List Value) {c : Char} (h : isMark c = false)
    (u v : Text) : fault e args u c v = none := by
  rw [fault, if_neg (ne_question_of_isMark h)]
  exact braceFault_of_isMark h u v

/-! ### Faults of the end -/

theorem unclosed_eq_none_iff (t : Text) : unclosed t = none ↔ openIn t = none := by
  simp [unclosed]

theorem unclosed_eq_some_iff {err : TemplateError} (t : Text) :
    unclosed t = some err ↔ ∃ p, openIn t = some p ∧ err = .unmatchedOpen p := by
  simp only [unclosed, Option.map_eq_some_iff, eq_comm (a := err)]

theorem surplus_eq_none_iff (args : List Value) (t : Text) :
    surplus args t = none ↔ args.length ≤ t.count '?' := by
  simp [surplus]

theorem surplus_eq_some_iff {args : List Value} {err : TemplateError} (t : Text) :
    surplus args t = some err ↔ t.count '?' < args.length ∧
    err = .tooManyArguments (t.count '?') args.length := by
  simp [surplus, eq_comm]

/-! ### What a question mark with its letter leaves unchanged -/

theorem openIn_append_question (u r : Text) : openIn (u ++ '?' :: suffixOf r) = openIn u := by
  refine openIn_append u fun c hc => ?_
  rcases List.mem_cons.1 hc with rfl | hc
  · rfl
  · exact isBrace_of_isMark (isMark_of_mem_suffixOf hc)

@[simp] theorem count_suffixOf (r : Text) : (suffixOf r).count '?' = 0 :=
  List.count_eq_zero.2 fun h => by simpa [isMark] using isMark_of_mem_suffixOf h

theorem count_append_question (u r : Text) :
    (u ++ '?' :: suffixOf r).count '?' = u.count '?' + 1 := by
  simp

theorem append_question_append (u r : Text) :
    u ++ '?' :: suffixOf r ++ afterSuffix r = u ++ '?' :: r := by
  simp

theorem firstFault_question (h : ∀ c, isMark c = false → ∀ u v, f u c v = none) (u r : Text) :
    firstFault f u ('?' :: r) =
      (f u '?' r).or (firstFault f (u ++ '?' :: suffixOf r) (afterSuffix r)) := by
  have hs := firstFault_append (f := f) (u ++ ['?']) (s := suffixOf r) (r := afterSuffix r)
    fun c hc => h c (isMark_of_mem_suffixOf hc)
  rw [suffixOf_append_afterSuffix] at hs
  rw [firstFault, hs]
  simp

end Template

end SqlTemplate
