import SqlTemplate.Proofs.Template.Fragment
import SqlTemplate.Proofs.Template.Runs

/-! What a skip marker does to a build. It leaves the text of its block out and nothing else: the
block is as if it were empty, whatever else it holds, and every error is the one that
other arguments in the places of the markers make. -/

namespace SqlTemplate.Template

variable {e : Escaper} {t : Text} {args args' : List Value}

/-! ### Blocks without their text -/

/-- Each run with its own arguments, but nothing of a block one of whose arguments is
the skip marker. -/
def keptRuns : Bool → List Text → List Value → List (Text × List Value)
  | _, [], _ => []
  | inside, run :: runs, args =>
    let own := args.take (run.count '?')
    (if inside && own.any Value.isSkip then ([], []) else (run, own)) ::
      keptRuns (!inside) runs (args.drop (run.count '?'))

/-- A template and its arguments where each block that got a skip marker is left empty: its text
between the braces is taken out of the template, and what was bound there out of the arguments. -/
def emptied (t : Text) (args : List Value) : Text × List Value :=
  let kept := keptRuns false (runs t) args
  (braced false (kept.map Prod.fst), kept.flatMap Prod.snd)

example : emptied "a\x7b b ?d, c ?\x7d\x7b d ?\x7d ?f".toList [.int 1, .skip, .null, .bool true] =
    ("a\x7b\x7d\x7b d ?\x7d ?f".toList, [.null, .bool true]) := by rfl

theorem keptRuns_suppressed {inside : Bool} {run : Text} {rs : List Text}
    (h : inside && (args.take (run.count '?')).any Value.isSkip) :
    keptRuns inside (run :: rs) args =
      ([], []) :: keptRuns (!inside) rs (args.drop (run.count '?')) := by
  simp only [keptRuns, h, if_true]

theorem keptRuns_shown {inside : Bool} {run : Text} {rs : List Text}
    (h : (inside && (args.take (run.count '?')).any Value.isSkip) = false) :
    keptRuns inside (run :: rs) args =
      (run, args.take (run.count '?')) :: keptRuns (!inside) rs (args.drop (run.count '?')) := by
  simp only [keptRuns, h, Bool.false_eq_true, if_false]

theorem isBrace_of_mem_keptRuns {inside : Bool} {rs : List Text} {args : List Value}
    (h : ∀ run ∈ rs, ∀ c ∈ run, isBrace c = false) :
    ∀ run ∈ (keptRuns inside rs args).map Prod.fst, ∀ c ∈ run, isBrace c = false := by
  induction rs generalizing inside args with
  | nil => simp [keptRuns]
  | cons run rs ih =>
    intro kept hkept
    rw [keptRuns, List.map_cons] at hkept
    rcases List.mem_cons.1 hkept with rfl | hkept
    · split
      next => simp
      next => exact h run (by simp)
    · exact ih (fun r hr => h r (by simp [hr])) kept hkept

/-- The kept runs take their arguments if all runs take theirs. -/
theorem runsTake_keptRuns {inside : Bool} {rs : List Text} {args : List Value}
    (h : RunsTake e inside rs args) :
    RunsTake e inside ((keptRuns inside rs args).map Prod.fst)
      ((keptRuns inside rs args).flatMap Prod.snd) := by
  induction rs generalizing inside args with
  | nil => exact ⟨h.1, rfl⟩
  | cons run rs ih =>
    obtain ⟨hrun, hrest⟩ := h
    have hrest := ih hrest
    cases hsup : inside && (args.take (run.count '?')).any Value.isSkip with
    | true => simpa [keptRuns_suppressed hsup, runsTake_nil_cons] using hrest
    | false =>
      rw [keptRuns_shown hsup, List.map_cons, List.flatMap_cons]
      refine ⟨?_, ?_⟩
      · rwa [List.take_left' hrun.1]
      · rwa [List.drop_left' hrun.1]

/-- The kept runs are filled as all runs are. -/
theorem fillRuns_keptRuns {inside : Bool} {rs : List Text} {args : List Value}
    (h : RunsTake e inside rs args) :
    fillRuns e inside ((keptRuns inside rs args).map Prod.fst)
        ((keptRuns inside rs args).flatMap Prod.snd) =
      fillRuns e inside rs args := by
  induction rs generalizing inside args with
  | nil => rfl
  | cons run rs ih =>
    obtain ⟨hrun, hrest⟩ := h
    have hrest := ih hrest
    cases hsup : inside && (args.take (run.count '?')).any Value.isSkip with
    | true => simpa [keptRuns_suppressed hsup, fillRuns, hsup] using hrest
    | false =>
      rw [keptRuns_shown hsup, List.map_cons, List.flatMap_cons, fillRuns, fillRuns,
        List.take_left' hrun.1, List.drop_left' hrun.1, hrest]

theorem runs_emptied (t : Text) (args : List Value) :
    runs (emptied t args).1 = (keptRuns false (runs t) args).map Prod.fst := by
  refine runs_braced false ?_
    (isBrace_of_mem_keptRuns fun run hrun c hc => isBrace_of_mem_runs hrun hc)
  obtain ⟨run, rest, hr⟩ := exists_runs t
  simp [hr, keptRuns]

/-- A block that got a skip marker is as if it were empty: a build stays the same if the text
between its braces is taken out of the template and what was bound there out of the
arguments. So neither the other arguments of such a block nor the place of the marker in it
matter to the output. -/
theorem build_emptied {s : Text} (h : build e t args = .ok s) :
    build e (emptied t args).1 (emptied t args).2 = .ok s ∧
    ∀ args' s', build e t args' = .ok s' → emptied t args' = emptied t args → s' = s := by
  have hempty : ∀ args s, build e t args = .ok s →
      build e (emptied t args).1 (emptied t args).2 = .ok s := by
    intro args s h
    obtain ⟨-, htake, rfl⟩ := build_eq_ok_iff_runsTake.1 h
    refine build_eq_ok_iff_runsTake.2 ⟨?_, ?_, ?_⟩
    · rw [runs_emptied]
      rfl
    · rw [runs_emptied]
      exact runsTake_keptRuns htake
    · rw [pieces, pieces, runs_emptied]
      exact congrArg written (fillRuns_keptRuns htake).symm
  refine ⟨hempty args s h, fun args' s' h' hsame => ?_⟩
  have hs' := hempty args' s' h'
  rw [hsame, hempty args s h] at hs'
  exact (Except.ok.inj hs').symm

/-- Two blocks, the first left out whichever of its arguments is the marker. -/
theorem build_emptied_of_two_blocks :
    build .ansi "a = ?\x7b and b = ?d or ?#\x7d\x7b, c = ?\x7d".toList
      [.null, .int 7, .skip, .str "x".toList] = .ok "a = NULL, c = 'x'".toList ∧
    build .ansi "a = ?\x7b\x7d\x7b, c = ?\x7d".toList [.null, .str "x".toList] =
      .ok "a = NULL, c = 'x'".toList ∧
    build .ansi "a = ?\x7b and b = ?d or ?#\x7d\x7b, c = ?\x7d".toList
      [.null, .skip, .str "n".toList, .str "x".toList] = .ok "a = NULL, c = 'x'".toList := by
  have h : build .ansi "a = ?\x7b and b = ?d or ?#\x7d\x7b, c = ?\x7d".toList
      [.null, .int 7, .skip, .str "x".toList] = .ok "a = NULL, c = 'x'".toList := rfl
  obtain ⟨s', hs'⟩ : ∃ s', build .ansi "a = ?\x7b and b = ?d or ?#\x7d\x7b, c = ?\x7d".toList
      [.null, .skip, .str "n".toList, .str "x".toList] = .ok s' := ⟨_, rfl⟩
  obtain ⟨hempty, hsame⟩ := build_emptied h
  refine ⟨h, hempty, ?_⟩
  rw [hs', hsame _ s' hs' rfl]

/-! ### Errors -/

/-- Arguments that differ from others only where these have the skip marker, bound inside a block:
there stand values that the placeholders take. -/
structure Unskips (e : Escaper) (t : Text) (args args' : List Value) : Prop where
  length_eq : args'.length = args.length
  getElem?_eq : ∀ i : Nat, args'[i]? = args[i]? ∨
    ∃ u v arg w, Binds t args u v .skip ∧ (openIn u).isSome ∧ u.count '?' = i ∧
      args'[i]? = some arg ∧ fragment e (Placeholder.before v) arg = .ok w

theorem Unskips.bindingFault_eq (h : Unskips e t args args') {u v : Text} (ht : t = u ++ '?' :: v) :
    bindingFault e args u v = bindingFault e args' u v := by
  rcases h.getElem?_eq (u.count '?') with hsame
    | ⟨u', v', arg, w, ⟨ht', hskip⟩, hopen, hcount, harg, hw⟩
  · rw [bindingFault, bindingFault, hsame]
  · obtain ⟨rfl, rfl⟩ := question_unique (ht'.symm.trans ht) hcount
    have hskipped : bindingFault e args u' v' = none :=
      (bindingFault_eq_none_iff u' v').2 ⟨.skip, hskip, fun _ => hopen, by simp [Value.isSkip]⟩
    have hwritten : bindingFault e args' u' v' = none :=
      (bindingFault_eq_none_iff u' v').2
        ⟨arg, harg, by simp [isSkip_eq_false_of_fragment hw], fun _ => ⟨w, hw⟩⟩
    rw [hskipped, hwritten]

/-- The skip marker hides no error: a build fails with the error with which it fails if values that
the placeholders take stand in the places of the markers bound inside blocks. -/
theorem build_eq_error_iff_of_unskips (h : Unskips e t args args') (err : TemplateError) :
    build e t args = .error err ↔ build e t args' = .error err := by
  rw [← failure?_eq_some_iff, ← failure?_eq_some_iff]
  rw [failure?_build_congr h.length_eq.symm fun u v ht => h.bindingFault_eq ht]

/-- An argument that is refused in a block that is left out, with another left over. -/
theorem build_refused_in_suppressed_block :
    Unskips .mysql "\x7b?d, c = ?a\x7d".toList [.skip, .int 5, .null]
      [.str "7x".toList, .int 5, .null] ∧
    build .mysql "\x7b?d, c = ?a\x7d".toList [.skip, .int 5, .null] =
      .error (.refused .array 9 (.notArray "int")) ∧
    build .mysql "\x7b?d, c = ?a\x7d".toList [.str "7x".toList, .int 5, .null] =
      .error (.refused .array 9 (.notArray "int")) := by
  have h : Unskips .mysql "\x7b?d, c = ?a\x7d".toList [.skip, .int 5, .null]
      [.str "7x".toList, .int 5, .null] := by
    refine ⟨rfl, fun i => ?_⟩
    rcases i with _ | i
    · exact .inr ⟨['\x7b'], "d, c = ?a\x7d".toList, .str "7x".toList, ['7'], ⟨rfl, rfl⟩, rfl,
        rfl, rfl, rfl⟩
    · exact .inl rfl
  have hrefused : build .mysql "\x7b?d, c = ?a\x7d".toList [.skip, .int 5, .null] =
      .error (.refused .array 9 (.notArray "int")) := rfl
  exact ⟨h, hrefused, (build_eq_error_iff_of_unskips h _).1 hrefused⟩

end SqlTemplate.Template
