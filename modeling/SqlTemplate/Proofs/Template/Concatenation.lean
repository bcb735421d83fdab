import SqlTemplate.Proofs.Template.Fault

/-! Templates put one behind the other. Where the first builds with its arguments, the second
is read as it is on its own: what it writes follows what the first has written, and its
error is the one it has alone, moved by the bytes and the arguments of the first. Only
at the seam can two templates become something else, when a question mark and a type
letter meet. -/

namespace SqlTemplate

/-- The error behind a template of so many bytes that has taken so many arguments. -/
def TemplateError.behind (bytes args : Nat) : TemplateError → TemplateError
  | .nesting position => .nesting (bytes + position)
  | .unmatchedOpen position => .unmatchedOpen (bytes + position)
  | .unmatchedClose position => .unmatchedClose (bytes + position)
  | .missingArgument placeholder position => .missingArgument placeholder (bytes + position)
  | .tooManyArguments consumed given => .tooManyArguments (args + consumed) (args + given)
  | .invalidSkip index position => .invalidSkip (args + index) (bytes + position)
  | .refused placeholder position reason => .refused placeholder (bytes + position) reason

theorem Placeholder.source_injective : Function.Injective Placeholder.source := by
  intro k k' h
  cases k <;> cases k' <;> first | rfl | cases h

namespace Template

variable {e : Escaper} {p index : Nat} {args : List Value} {s t u : Text}

/-! ### The second template -/

/-- The block of a template that stands behind so many bytes. -/
def Block.behind (bytes : Nat) (b : Block) : Block := { b with position := bytes + b.position }

theorem emit_behind {bytes before : Nat} {rest rest' : Option Block → Except TemplateError Text}
    (hrest : ∀ block, rest' (block.map (·.behind bytes)) =
      (rest block).mapError (·.behind bytes before)) (w : Text) (block : Option Block) :
    emit w rest' (block.map (·.behind bytes)) =
      (emit w rest block).mapError (·.behind bytes before) := by
  cases block with
  | none => rw [emit, mapError_map, ← hrest none]; rfl
  | some b => exact hrest (some (b.write w))

/-- A text that stands further on, with more arguments bound before it, renders the same or fails
with the same error further on. -/
theorem renderText_behind (bytes before p index : Nat) (t : Text) (args : List Value)
    (block : Option Block) :
    renderText e (bytes + p) t args (before + index) (block.map (·.behind bytes)) =
      (renderText e p t args index block).mapError (·.behind bytes before) := by
  induction t using scanInduction generalizing p index args block with
  | nil =>
    cases block with
    | some b => rfl
    | none =>
      cases args with
      | nil => rfl
      | cons arg args => simp [Except.mapError, TemplateError.behind, Nat.add_assoc]
  | opening r ih =>
    cases block with
    | none => exact ih (p + 1) index args (some (.opened p))
    | some b => rfl
  | closing r ih =>
    cases block with
    | none => rfl
    | some b =>
      rw [renderText_closing_inside, mapError_map, ← ih (p + 1) index args none]
      rfl
  | question r ih =>
    cases args with
    | nil => simp [Except.mapError, TemplateError.behind]
    | cons arg args =>
      have ih := ih (p + Text.size ('?' :: suffixOf r)) (index + 1) args
      rw [← Nat.add_assoc, ← Nat.add_assoc] at ih
      cases hs : arg.isSkip with
      | true =>
        obtain rfl := Value.eq_skip_of_isSkip hs
        cases block with
        | none => simp [renderText_question_skip_outside, Except.mapError, TemplateError.behind]
        | some b =>
          rw [renderText_question_skip_inside, ← ih (some b.suppress), Option.map_some,
            renderText_question_skip_inside]
          rfl
      | false =>
        cases hf : fragment e (Placeholder.before r) arg with
        | error reason =>
          simp [renderText_question_refused hs hf, Except.mapError, TemplateError.behind]
        | ok w =>
          rw [renderText_question_bound hs hf, renderText_question_bound hs hf]
          exact emit_behind ih w block
  | literal c r hc ih =>
    rw [renderText_literal hc, renderText_literal hc, Nat.add_assoc]
    exact emit_behind (ih (p + c.utf8Size) index args) [c] block

/-! ### The seam -/

/-- A question mark at the end of a text takes the letter that another begins with. -/
def Glues (s t : Text) : Prop := s.getLast? = some '?' ∧ ∃ c ∈ t.head?, c ∈ ['d', 'f', 'a', '#']

instance (s t : Text) : Decidable (Glues s t) := inferInstanceAs (Decidable (_ ∧ _))

theorem isSome_ofSuffix?_iff {c : Char} :
    (Placeholder.ofSuffix? c).isSome ↔ c ∈ ['d', 'f', 'a', '#'] := by
  unfold Placeholder.ofSuffix?
  split <;> simp_all

theorem suffixOf_eq_nil_of_not_glues (h : ¬ Glues s t) (hs : s.getLast? = some '?') :
    suffixOf t = [] := by
  cases t with
  | nil => rfl
  | cons c t =>
    have hc : ¬ (Placeholder.ofSuffix? c).isSome :=
      fun hc => h ⟨hs, c, rfl, isSome_ofSuffix?_iff.1 hc⟩
    simp [suffixOf, hc]

/-- A text glues to what follows it if its end does. -/
theorem Glues.of_append (h : Glues s t) : Glues (u ++ s) t := by
  refine ⟨?_, h.2⟩
  rw [List.getLast?_append, h.1]
  rfl

theorem not_glues_of_append (h : ¬ Glues (u ++ s) t) : ¬ Glues s t := fun hs => h hs.of_append

/-- The letter after a question mark stays the same where nothing glues. -/
theorem suffixOf_append (h : ¬ Glues ('?' :: s) t) : suffixOf (s ++ t) = suffixOf s := by
  cases s with
  | nil => exact suffixOf_eq_nil_of_not_glues h rfl
  | cons c s => rfl

theorem afterSuffix_append (h : ¬ Glues ('?' :: s) t) :
    afterSuffix (s ++ t) = afterSuffix s ++ t := by
  have hst := suffixOf_append_afterSuffix (s ++ t)
  rw [suffixOf_append h] at hst
  have hs : suffixOf s ++ (afterSuffix s ++ t) = s ++ t := by
    rw [← List.append_assoc, suffixOf_append_afterSuffix]
  exact List.append_cancel_left (hst.trans hs.symm)

theorem before_append (h : ¬ Glues ('?' :: s) t) :
    Placeholder.before (s ++ t) = Placeholder.before s := by
  apply Placeholder.source_injective
  rw [source_before, source_before, suffixOf_append h]

/-! ### The first template -/

theorem map_append_map_append (w s : Text) (x : Except TemplateError Text) :
    (x.map (s ++ ·)).map (w ++ ·) = x.map (w ++ s ++ ·) := by
  cases x <;> simp [Except.map]

theorem emit_append {rest rest' : Option Block → Except TemplateError Text}
    {x : Except TemplateError Text}
    (hrest : ∀ block s, rest block = .ok s → rest' block = x.map (s ++ ·)) {w s : Text}
    {block : Option Block}
    (h : emit w rest block = .ok s) : emit w rest' block = x.map (s ++ ·) := by
  cases block with
  | none =>
    obtain ⟨s', hs', rfl⟩ := map_eq_ok h
    rw [emit, hrest none s' hs', map_append_map_append]
  | some b => exact hrest (some (b.write w)) s h

/-- A text that builds from the middle of a template on leaves what follows it to a build outside of
blocks, with the arguments that it has not taken. -/
theorem renderText_append {t₁ t₂ s₁ : Text} {a₁ : List Value} {block : Option Block}
    (hseam : ¬ Glues t₁ t₂) (h : renderText e p t₁ a₁ index block = .ok s₁) (a₂ : List Value) :
    renderText e p (t₁ ++ t₂) (a₁ ++ a₂) index block =
      (renderText e (p + t₁.size) t₂ a₂ (index + a₁.length) none).map (s₁ ++ ·) := by
  induction t₁ using scanInduction generalizing p index block a₁ s₁ with
  | nil =>
    cases block with
    | some b => cases h
    | none =>
      cases a₁ with
      | nil =>
        cases h
        exact (congrFun Except.map_id _).symm
      | cons arg args => cases h
  | opening r ih =>
    cases block with
    | some b => cases h
    | none =>
      have := ih (not_glues_of_append (u := ['\x7b']) hseam) h
      rwa [Nat.add_assoc] at this
  | closing r ih =>
    cases block with
    | none => cases h
    | some b =>
      rw [renderText_closing_inside] at h
      obtain ⟨s', hs', rfl⟩ := map_eq_ok h
      have := ih (not_glues_of_append (u := ['\x7d']) hseam) hs'
      rw [List.cons_append, renderText_closing_inside, this, map_append_map_append, Text.size_cons,
        utf8Size_closing, Nat.add_assoc]
  | question r ih =>
    have hsuffix := suffixOf_append hseam
    have hafter := afterSuffix_append hseam
    have hrest : ¬ Glues (afterSuffix r) t₂ :=
      not_glues_of_append (u := '?' :: suffixOf r) (by simpa using hseam)
    have hsize : Text.size ('?' :: r) =
        Text.size ('?' :: suffixOf r) + Text.size (afterSuffix r) := by
      rw [← Text.size_append, List.cons_append, suffixOf_append_afterSuffix]
    cases a₁ with
    | nil => simp at h
    | cons arg args =>
      have hlength : index + (arg :: args).length = index + 1 + args.length := by
        rw [List.length_cons]
        omega
      rw [hsize, hlength, ← Nat.add_assoc, List.cons_append, List.cons_append]
      by_cases hskip : arg.isSkip
      · obtain rfl := Value.eq_skip_of_isSkip hskip
        cases block with
        | none => simp [renderText_question_skip_outside] at h
        | some b =>
          rw [renderText_question_skip_inside] at h
          rw [renderText_question_skip_inside, hsuffix, hafter]
          exact ih hrest h
      · have hskip : arg.isSkip = false := by simpa using hskip
        cases hf : fragment e (Placeholder.before r) arg with
        | error reason => simp [renderText_question_refused hskip hf] at h
        | ok w =>
          rw [renderText_question_bound hskip hf] at h
          rw [renderText_question_bound hskip (by rw [before_append hseam, hf]), hsuffix, hafter]
          exact emit_append (fun block s hs => ih hrest hs) h
  | literal c r hc ih =>
    rw [renderText_literal hc] at h
    rw [List.cons_append, renderText_literal hc, Text.size_cons, ← Nat.add_assoc]
    exact emit_append (fun block s hs => ih (not_glues_of_append (u := [c]) hseam) hs) h

/-- Building is compatible with putting templates and arguments one behind the other. Where the
first template builds, and does not glue to the second, both together build to both texts if the
second builds, and fail as the second does, further on by the bytes and the arguments of the first,
if it fails. -/
theorem build_append {t₁ t₂ s₁ : Text} {a₁ : List Value} (h : build e t₁ a₁ = .ok s₁)
    (hseam : ¬ Glues t₁ t₂) (a₂ : List Value) :
    (∀ s₂, build e t₂ a₂ = .ok s₂ → build e (t₁ ++ t₂) (a₁ ++ a₂) = .ok (s₁ ++ s₂)) ∧
    ∀ err, build e t₂ a₂ = .error err → build e (t₁ ++ t₂) (a₁ ++ a₂) =
      .error (err.behind t₁.size a₁.length) := by
  have happend : build e (t₁ ++ t₂) (a₁ ++ a₂) =
      ((build e t₂ a₂).mapError (·.behind t₁.size a₁.length)).map (s₁ ++ ·) := by
    rw [build_eq_renderText, renderText_append hseam h, Nat.zero_add, Nat.zero_add]
    exact congrArg (·.map (s₁ ++ ·)) (renderText_behind t₁.size a₁.length 0 0 t₂ a₂ none)
  constructor
  · intro s₂ h₂
    rw [happend, h₂]
    rfl
  · intro err h₂
    rw [happend, h₂]
    rfl

/-- A letter behind a block that is left out, and an argument that is refused there as the third
of both lists. -/
theorem build_append_behind_block :
    build .mysql "é = ?\x7b and ?d\x7d".toList [.str "x'".toList, .skip] = .ok "é = 'x\\''".toList ∧
    ¬ Glues "é = ?\x7b and ?d\x7d".toList "d = ?".toList ∧
    build .mysql "é = ?\x7b and ?d\x7dd = ?".toList [.str "x'".toList, .skip, .null] =
      .ok "é = 'x\\''d = NULL".toList ∧
    build .mysql "é = ?\x7b and ?d\x7dd = ?".toList [.str "x'".toList, .skip, .skip] =
      .error (.invalidSkip 2 19) := by
  have h : build .mysql "é = ?\x7b and ?d\x7d".toList [.str "x'".toList, .skip] =
    .ok "é = 'x\\''".toList := rfl
  have hseam : ¬ Glues "é = ?\x7b and ?d\x7d".toList "d = ?".toList := by decide
  exact ⟨h, hseam, (build_append h hseam [.null]).1 "d = NULL".toList rfl,
    (build_append h hseam [.skip]).2 (.invalidSkip 0 4) rfl⟩

end Template

end SqlTemplate
