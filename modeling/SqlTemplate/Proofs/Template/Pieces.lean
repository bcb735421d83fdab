import SqlTemplate.Proofs.Template.Fault

/-! The output of a build, put together from the template in two phases. The braces cut a
template into runs, alternately outside and inside the blocks; then each run is filled
with the arguments of its own question marks, or left out as a whole if it is a block
one of whose arguments is the skip marker. The single pass writes just these pieces. -/

namespace SqlTemplate.Template

/-- A piece of the output: a character of the template, or what an argument wrote. -/
inductive Piece where
  | literal (c : Char)
  | fragment (t : Text)

def Piece.text : Piece → Text
  | .literal c => [c]
  | .fragment t => t

/-- The text that pieces make up. -/
def written (ps : List Piece) : Text := ps.flatMap Piece.text

@[simp] theorem written_nil : written [] = [] := rfl

@[simp] theorem written_cons (p : Piece) (ps : List Piece) :
    written (p :: ps) = p.text ++ written ps := rfl

@[simp] theorem written_append (ps qs : List Piece) :
    written (ps ++ qs) = written ps ++ written qs :=
  List.flatMap_append

/-- What a placeholder writes for a value, nothing if it refuses it. -/
def writtenFor (e : Escaper) (kind : Placeholder) (v : Value) : Text :=
  match fragment e kind v with
  | .ok w => w
  | .error _ => []

/-- Fills a run without braces; `marked` says that a question mark stands in front of it, whose type
letter is passed over. -/
def fillFrom (e : Escaper) : Bool → Text → List Value → List Piece
  | _, [], _ => []
  | marked, c :: r, args =>
    if marked && (Placeholder.ofSuffix? c).isSome then fillFrom e false r args
    else if c = '?' then
      match args with
      | [] => []
      | arg :: rest => .fragment (writtenFor e (Placeholder.before r) arg) :: fillFrom e true r rest
    else .literal c :: fillFrom e false r args

/-- A run without braces, its question marks with their letters replaced by what
their arguments write. -/
def fill (e : Escaper) (run : Text) (args : List Value) : List Piece := fillFrom e false run args

/-- Fills runs that stand alternately outside and inside of blocks, each with the arguments of its
own question marks. A run inside is left out if one of these is the skip marker. -/
def fillRuns (e : Escaper) : Bool → List Text → List Value → List Piece
  | _, [], _ => []
  | inside, run :: runs, args =>
    let own := args.take (run.count '?')
    (if inside && own.any Value.isSkip then [] else fill e run own) ++
      fillRuns e (!inside) runs (args.drop (run.count '?'))

/-- The runs of text between the braces. -/
def runs (t : Text) : List Text := t.splitOnP isBrace

/-- The pieces of the output. -/
def pieces (e : Escaper) (t : Text) (args : List Value) : List Piece :=
  fillRuns e false (runs t) args

/-! ### Filling -/

@[simp] theorem fill_nil (e : Escaper) (args : List Value) : fill e [] args = [] := rfl

theorem fillFrom_marked (e : Escaper) (r : Text) (args : List Value) :
    fillFrom e true r args = fill e (afterSuffix r) args := by
  cases r with
  | nil => rfl
  | cons c r => cases h : (Placeholder.ofSuffix? c).isSome <;> simp [fill, fillFrom, afterSuffix, h]

theorem fill_literal (e : Escaper) {c : Char} (h : isMark c = false) (r : Text)
    (args : List Value) : fill e (c :: r) args = .literal c :: fill e r args := by
  have hq := ne_question_of_isMark h
  simp [fill, fillFrom, hq]

theorem fill_question (e : Escaper) (r : Text) (arg : Value) (args : List Value) :
    fill e ('?' :: r) (arg :: args) =
      .fragment (writtenFor e (Placeholder.before r) arg) :: fill e (afterSuffix r) args := by
  rw [← fillFrom_marked]
  rfl

/-! ### Runs -/

theorem exists_runs (t : Text) : ∃ run rest, runs t = run :: rest :=
  List.exists_cons_of_ne_nil (List.splitOnP_ne_nil isBrace t)

theorem runs_brace {c : Char} (h : isBrace c) (r : Text) : runs (c :: r) = [] :: runs r := by
  simp [runs, List.splitOnP_cons_eq_if_modifyHead, h]

theorem runs_cons {c : Char} (h : isBrace c = false) {r run : Text} {rest : List Text}
    (hr : runs r = run :: rest) : runs (c :: r) = (c :: run) :: rest := by
  unfold runs at *
  simp [List.splitOnP_cons_eq_if_modifyHead, h, hr]

theorem runs_append {s : Text} (h : ∀ c ∈ s, isBrace c = false) {r run : Text} {rest : List Text}
    (hr : runs r = run :: rest) : runs (s ++ r) = (s ++ run) :: rest := by
  induction s with
  | nil => exact hr
  | cons c s ih => exact runs_cons (h c (by simp)) (ih fun d hd => h d (by simp [hd]))

/-- The first run begins with the type letter that the text begins with. -/
theorem suffix_of_run {r run : Text} {rest : List Text} (hr : runs r = run :: rest) :
    Placeholder.before run = Placeholder.before r ∧ suffixOf run = suffixOf r := by
  cases r with
  | nil =>
    obtain ⟨rfl, -⟩ := List.cons.inj hr
    exact ⟨rfl, rfl⟩
  | cons c r =>
    by_cases hc : isBrace c
    · have hm : isMark c := by simp [isMark, hc]
      obtain ⟨rfl, -⟩ := List.cons.inj ((runs_brace hc r).symm.trans hr)
      have hs : suffixOf (c :: r) = [] := by
        have := suffixOf_append_afterSuffix (c :: r)
        rwa [afterSuffix_cons_of_isMark hm, List.append_left_eq_self] at this
      exact ⟨(before_cons_of_isMark hm r).symm, hs.symm⟩
    · obtain ⟨run', rest', hr'⟩ := exists_runs r
      obtain ⟨rfl, -⟩ := List.cons.inj ((runs_cons (by simpa using hc) hr').symm.trans hr)
      exact ⟨rfl, rfl⟩

theorem runs_afterSuffix {r run : Text} {rest : List Text}
    (hr : runs (afterSuffix r) = run :: rest) : runs r = (suffixOf r ++ run) :: rest := by
  have hs : ∀ c ∈ suffixOf r, isBrace c = false :=
    fun c hc => isBrace_of_isMark (isMark_of_mem_suffixOf hc)
  have := runs_append hs hr
  rwa [suffixOf_append_afterSuffix] at this

/-- A question mark stands in the first run with its letter, in front of what that run has left. -/
theorem runs_question {r run : Text} {rest : List Text} (hr : runs (afterSuffix r) = run :: rest) :
    runs ('?' :: r) = ('?' :: (suffixOf r ++ run)) :: rest :=
  runs_cons rfl (runs_afterSuffix hr)

theorem fill_question_run (e : Escaper) {r run : Text} {rest : List Text}
    (hr : runs (afterSuffix r) = run :: rest) (arg : Value) (args : List Value) :
    fill e ('?' :: (suffixOf r ++ run)) (arg :: args) =
      .fragment (writtenFor e (Placeholder.before r) arg) :: fill e run args := by
  obtain ⟨hbefore, hsuffix⟩ := suffix_of_run (runs_afterSuffix hr)
  have hafter : afterSuffix (suffixOf r ++ run) = run := by
    have := suffixOf_append_afterSuffix (suffixOf r ++ run)
    rw [hsuffix] at this
    exact List.append_cancel_left this
  rw [fill_question, hbefore, hafter]

example : runs "a \x7b?d\x7d b".toList = ["a ".toList, "?d".toList, " b".toList] := by decide

/-! ### The single pass -/

/-- What a build has still to write, with the runs and the arguments that are left: all runs, or
first what becomes of the open block. -/
def pending (e : Escaper) : Option Block → List Text → List Value → Text
  | none, runs, args => written (fillRuns e false runs args)
  | some b, run :: runs, args =>
    let own := args.take (run.count '?')
    (if b.shown && !own.any Value.isSkip then b.text ++ written (fill e run own) else []) ++
      written (fillRuns e false runs (args.drop (run.count '?')))
  | some _, [], _ => []

variable {e : Escaper} {args : List Value} {rs : List Text}

theorem pending_opened (p : Nat) (run : Text) :
    pending e (some (.opened p)) (run :: rs) args = pending e none ([] :: run :: rs) args := by
  cases h : (args.take (run.count '?')).any Value.isSkip <;>
    simp [pending, fillRuns, Block.opened, Block.text, h]

theorem pending_closed (b : Block) :
    pending e (some b) ([] :: rs) args = b.output ++ pending e none rs args := by
  simp [pending, Block.output]

theorem pending_literal {c : Char} (h : isMark c = false) (run : Text) (block : Option Block) :
    pending e block ((c :: run) :: rs) args =
      match block with
      | none => c :: pending e none (run :: rs) args
      | some b => pending e (some (b.write [c])) (run :: rs) args := by
  have hq := ne_question_of_isMark h
  cases block with
  | none => simp [pending, fillRuns, fill_literal e h, hq, Piece.text]
  | some b => simp [pending, fill_literal e h, hq, Piece.text, Block.write, Block.text]

theorem pending_bound {r run w : Text} (hr : runs (afterSuffix r) = run :: rs) {arg : Value}
    (hs : arg.isSkip = false)
    (hf : fragment e (Placeholder.before r) arg = .ok w) (block : Option Block) :
    pending e block (('?' :: (suffixOf r ++ run)) :: rs) (arg :: args) =
      match block with
      | none => w ++ pending e none (run :: rs) args
      | some b => pending e (some (b.write w)) (run :: rs) args := by
  have hw : writtenFor e (Placeholder.before r) arg = w := by simp [writtenFor, hf]
  cases block with
  | none => simp [pending, fillRuns, fill_question_run e hr, hw, Piece.text]
  | some b => simp [pending, fill_question_run e hr, hw, hs, Piece.text, Block.write, Block.text]

theorem pending_skip {r run : Text} (b : Block) :
    pending e (some b) (('?' :: (suffixOf r ++ run)) :: rs) (.skip :: args) =
      pending e (some b.suppress) (run :: rs) args := by
  simp [pending, Block.suppress, Value.isSkip]

theorem emit_eq_ok {w s : Text} {rest : Option Block → Except TemplateError Text}
    {block : Option Block} (h : emit w rest block = .ok s) :
    match block with
    | none => ∃ s', rest none = .ok s' ∧ w ++ s' = s
    | some b => rest (some (b.write w)) = .ok s := by
  cases block with
  | none => exact map_eq_ok h
  | some b => exact h

/-- The single pass writes what the two phases leave to be written, at every place
of the template. -/
theorem eq_pending_of_renderText {t s : Text} {p index : Nat} {block : Option Block}
    (h : renderText e p t args index block = .ok s) : s = pending e block (runs t) args := by
  induction t using scanInduction generalizing p args index block s with
  | nil =>
    cases block with
    | some b => cases h
    | none =>
      cases args with
      | nil => cases h; simp [runs, pending, fillRuns]
      | cons arg args => cases h
  | opening r ih =>
    cases block with
    | some b => cases h
    | none =>
      obtain ⟨run, rest, hr⟩ := exists_runs r
      rw [runs_brace rfl, hr, ← pending_opened p, ← hr]
      exact ih h
  | closing r ih =>
    cases block with
    | none => cases h
    | some b =>
      obtain ⟨s', hs', rfl⟩ := map_eq_ok h
      rw [runs_brace rfl, pending_closed, ih hs']
  | question r ih =>
    obtain ⟨run, rest, hr⟩ := exists_runs (afterSuffix r)
    cases args with
    | nil => simp at h
    | cons arg args =>
      rw [runs_question hr]
      by_cases hskip : arg.isSkip
      · obtain rfl := Value.eq_skip_of_isSkip hskip
        cases block with
        | none => simp [renderText_question_skip_outside] at h
        | some b =>
          rw [renderText_question_skip_inside] at h
          rw [pending_skip, ← hr]
          exact ih h
      · have hskip : arg.isSkip = false := by simpa using hskip
        cases hf : fragment e (Placeholder.before r) arg with
        | error reason => simp [renderText_question_refused hskip hf] at h
        | ok w =>
          rw [renderText_question_bound hskip hf] at h
          rw [pending_bound hr hskip hf, ← hr]
          have h := emit_eq_ok h
          cases block with
          | none =>
            obtain ⟨s', hs', rfl⟩ := h
            rw [← ih hs']
          | some b => exact ih h
  | literal c r hc ih =>
    obtain ⟨run, rest, hr⟩ := exists_runs r
    rw [renderText_literal hc] at h
    rw [runs_cons (isBrace_of_isMark hc) hr, pending_literal hc, ← hr]
    have h := emit_eq_ok h
    cases block with
    | none =>
      obtain ⟨s', hs', rfl⟩ := h
      rw [← ih hs']
      rfl
    | some b => exact ih h

theorem eq_written_of_build {t s : Text} (h : build e t args = .ok s) :
    s = written (pieces e t args) := by
  rw [build_eq_renderText] at h
  exact eq_pending_of_renderText h

end SqlTemplate.Template
