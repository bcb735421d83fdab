import SqlTemplate.Proofs.Template.Fault

/-! Which error a failing build reports. A build fails with the first fault in the order of
the template; only without faults is a block that stays open reported, and only then
surplus arguments. Outlining fails with the first fault of the braces. Every position
reported is one at which the template has the character that is blamed. -/

namespace SqlTemplate.Template

/-! ### Building -/

theorem failure?_renderText_nil (e : Escaper) (args : List Value) (u : Text) (block : Option Block)
    (hb : block.map Block.position = openIn u) (hn : u.count '?' ≤ args.length) :
    failure? (renderText e u.size [] (args.drop (u.count '?')) (u.count '?') block) =
      (unclosed u).or (surplus args u) := by
  cases block with
  | some b => simp [unclosed, ← hb]
  | none =>
    rw [Option.map_none] at hb
    cases hd : args.drop (u.count '?') with
    | nil =>
      have hle : ¬ u.count '?' < args.length := by
        have := List.drop_eq_nil_iff.1 hd
        omega
      simp [unclosed, surplus, ← hb, hle]
    | cons arg rest =>
      have hl : u.count '?' + (arg :: rest).length = args.length := by
        rw [← hd, List.length_drop]
        omega
      have hlt : u.count '?' < args.length := by
        rw [List.length_cons] at hl
        omega
      rw [renderText_nil_surplus, hl]
      simp [unclosed, surplus, ← hb, hlt]

/-- A question mark fails with its own fault, or as what follows it does; that in turn does not
depend on what has been written or on whether it will show. -/
theorem failure?_renderText_question (e : Escaper) (args : List Value) (u r : Text)
    (block : Option Block) (hb : block.map Block.position = openIn u) {rest : Option TemplateError}
    (hrest : ∀ block' : Option Block, block'.map Block.position = openIn u →
      u.count '?' < args.length →
      failure? (renderText e (u.size + Text.size ('?' :: suffixOf r)) (afterSuffix r)
        (args.drop (u.count '?' + 1)) (u.count '?' + 1) block') = rest) :
    failure? (renderText e u.size ('?' :: r) (args.drop (u.count '?')) (u.count '?') block) =
      (bindingFault e args u r).or rest := by
  by_cases hn : u.count '?' < args.length
  case neg =>
    have hd : args.drop (u.count '?') = [] := List.drop_eq_nil_of_le (by omega)
    have harg : args[u.count '?']? = none := List.getElem?_eq_none (by omega)
    simp [hd, bindingFault, harg]
  have harg : args[u.count '?']? = some args[u.count '?'] := List.getElem?_eq_getElem hn
  rw [List.drop_eq_getElem_cons hn, bindingFault, harg]
  generalize args[u.count '?'] = arg
  by_cases hs : arg.isSkip
  · obtain rfl := Value.eq_skip_of_isSkip hs
    cases block with
    | none => simp [renderText_question_skip_outside, ← hb, Value.isSkip]
    | some b =>
      simpa [renderText_question_skip_inside, ← hb, Value.isSkip] using
        hrest (some b.suppress) hb hn
  · have hs : arg.isSkip = false := by simpa using hs
    cases hf : fragment e (Placeholder.before r) arg with
    | error reason => simp [renderText_question_refused hs hf, hs, hf]
    | ok w =>
      have hw : (block.map (·.write w)).map Block.position = openIn u := by
        rw [← hb]
        cases block <;> rfl
      simpa [renderText_question_bound hs hf, hs, hf] using hrest _ hw hn

/-- The characters of a text are checked one by one as they are rendered. The invariant: what
was read is `u`, its question marks have taken the first arguments, and the open block is the
one `u` ends in. -/
theorem failure?_renderText (e : Escaper) (args : List Value) (t u : Text) (block : Option Block)
    (hb : block.map Block.position = openIn u) (hn : u.count '?' ≤ args.length) :
    failure? (renderText e u.size t (args.drop (u.count '?')) (u.count '?') block) =
      (firstFault (fault e args) u t).or ((unclosed (u ++ t)).or (surplus args (u ++ t))) := by
  induction t using scanInduction generalizing u block with
  | nil => simpa [firstFault] using failure?_renderText_nil e args u block hb hn
  | opening r ih =>
    cases block with
    | some b => simp [firstFault, fault, braceFault, ← hb]
    | none =>
      have :=
        ih (u ++ ['\x7b']) (some (.opened u.size)) (by simp [Block.opened]) (by simpa using hn)
      simpa [firstFault, fault, braceFault, ← hb, Text.size_append] using this
  | closing r ih =>
    cases block with
    | none => simp [firstFault, fault, braceFault, ← hb]
    | some b =>
      have := ih (u ++ ['\x7d']) none (by simp) (by simpa using hn)
      simpa [firstFault, fault, braceFault, ← hb, Text.size_append] using this
  | question r ih =>
    rw [firstFault_question fun c hc => fault_of_isMark e args hc, Option.or_assoc]
    refine failure?_renderText_question e args u r block hb fun block' hb' hlt => ?_
    have := ih (u ++ '?' :: suffixOf r) block' (by rw [hb', openIn_append_question])
      (by rw [count_append_question]; omega)
    rwa [Text.size_append, count_append_question, append_question_append] at this
  | literal c r hc ih =>
    have hq := ne_question_of_isMark hc
    have hblock : (block.map (·.write [c])).map Block.position = openIn (u ++ [c]) := by
      rw [openIn_append_singleton u (isBrace_of_isMark hc), ← hb]
      cases block <;> rfl
    have := ih (u ++ [c]) (block.map (·.write [c])) hblock (by simpa [hq] using hn)
    simpa [renderText_literal hc, firstFault, fault_of_isMark e args hc, Text.size_append,
      hq] using this

/-- The error of a build: a fault of a character before one of the end, an open block
before surplus arguments. -/
theorem failure?_build (e : Escaper) (t : Text) (args : List Value) :
    failure? (build e t args) =
      (firstFault (fault e args) [] t).or ((unclosed t).or (surplus args t)) := by
  simpa [build_eq_renderText] using failure?_renderText e args t [] none rfl (by simp)

/-- Two builds of a template fail alike if there are as many arguments and each question mark is
at fault alike. -/
theorem failure?_build_congr {e e' : Escaper} {t : Text} {args args' : List Value}
    (hlength : args.length = args'.length)
    (hbind : ∀ u v, t = u ++ '?' :: v → bindingFault e args u v = bindingFault e' args' u v) :
    failure? (build e t args) = failure? (build e' t args') := by
  have hfault : firstFault (fault e args) [] t = firstFault (fault e' args') [] t := by
    refine firstFault_congr fun u c v ht => ?_
    by_cases hq : c = '?'
    · subst hq
      exact hbind u v ht
    · simp only [fault, hq, if_false]
  have hsurplus : surplus args t = surplus args' t := by simp only [surplus, hlength]
  rw [failure?_build, failure?_build, hfault, hsurplus]

/-! ### Outlining -/

theorem failure?_outlineText (t u : Text) :
    failure? (outlineText u.size t (openIn u)) =
      (firstFault braceFault u t).or (unclosed (u ++ t)) := by
  induction t using scanInduction generalizing u with
  | nil => cases h : openIn u <;> simp [firstFault, unclosed, h]
  | opening r ih =>
    have := ih (u ++ ['\x7b'])
    cases h : openIn u <;> simp_all [firstFault, braceFault, Text.size_append]
  | closing r ih =>
    have := ih (u ++ ['\x7d'])
    cases h : openIn u <;> simp_all [firstFault, braceFault, Text.size_append]
  | question r ih =>
    rw [firstFault_question fun c hc => braceFault_of_isMark hc]
    have := ih (u ++ '?' :: suffixOf r)
    rw [openIn_append_question, append_question_append, Text.size_append] at this
    simpa [outlineText_question, braceFault] using this
  | literal c r hc ih =>
    have := ih (u ++ [c])
    rw [openIn_append_singleton u (isBrace_of_isMark hc), Text.size_append] at this
    simpa [outlineText_literal hc, firstFault, braceFault_of_isMark hc] using this

/-- The error of an outline: what the braces alone make of the error of a build. -/
theorem failure?_outline (t : Text) :
    failure? (outline t) = (firstFault braceFault [] t).or (unclosed t) := by
  simpa [outline_eq_outlineText] using failure?_outlineText t []

end SqlTemplate.Template
