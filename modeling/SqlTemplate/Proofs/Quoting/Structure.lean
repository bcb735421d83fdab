import SqlTemplate.Proofs.Quoting.Fragment
import SqlTemplate.Proofs.Template.PieceOrigin

/-! Arguments do not change the quotes of a statement. If the literal text alone leaves no quote
open where an argument is written, the whole output leaves none open before or after
the argument either; so each character of the template is inside or outside of quotes
as the literal text has it, whatever the arguments are. -/

namespace SqlTemplate.Template

open Dialect (lex step Neutral)

/-- The characters of the template among the pieces, with the state the output is in before them. -/
def classified (d : Dialect) : QuoteState → List Piece → List (Char × QuoteState)
  | _, [] => []
  | state, .literal c :: ps => (c, state) :: classified d (d.step state c) ps
  | state, .fragment w :: ps => classified d (d.lex state w) ps

/-- Without the fragments, the text is outside of quotes at the place of each of them. -/
def codeAtFragments (d : Dialect) : QuoteState → List Piece → Bool
  | _, [] => true
  | state, .literal c :: ps => codeAtFragments d (d.step state c) ps
  | state, .fragment _ :: ps => state = .code && codeAtFragments d state ps

/-- Arguments that build the template, with names the dialect can quote. -/
def Admissible (d : Dialect) (t : Text) (args : List Value) : Prop :=
  (∃ s, build d.escaper t args = .ok s) ∧
    ∀ before after arg, Binds t args before after arg →
    d.Quotable ((Placeholder.before after).identifiers arg)

variable {d : Dialect}

theorem codeAtFragments_iff (state : QuoteState) (ps : List Piece) :
    codeAtFragments d state ps ↔
      ∀ pre w post, ps = pre ++ .fragment w :: post → d.lex state (literals pre) = .code := by
  show _ ↔ EachFragment (fun pre _ => d.lex state (literals pre) = .code) ps
  induction ps generalizing state with
  | nil => simp [codeAtFragments, eachFragment_nil]
  | cons p ps ih =>
    cases p with
    | literal c =>
      rw [codeAtFragments, ih, eachFragment_literal]
      rfl
    | fragment w =>
      rw [codeAtFragments, Bool.and_eq_true, decide_eq_true_eq, ih, eachFragment_fragment]
      rfl

/-- Arguments that build the template are admissible if the dialect can quote the names in
each of them. -/
theorem admissible_of_build {t s : Text} {args : List Value} (hs : build d.escaper t args = .ok s)
    (h : ∀ x ∈ (kinds t).zip args, d.Quotable (x.1.identifiers x.2)) : Admissible d t args :=
  ⟨⟨s, hs⟩,
    fun _ _ _ hb => binds_forall (p := fun kind arg => d.Quotable (kind.identifiers arg)) h hb⟩

/-! ### One run -/

/-- Neutral fragments at places outside of quotes can be left out. -/
theorem lex_written {state : QuoteState} {ps : List Piece} (hcode : codeAtFragments d state ps)
    (hneutral : ∀ w, .fragment w ∈ ps → d.Neutral w) {pre post : List Piece}
    (hps : ps = pre ++ post) : d.lex state (written pre) = d.lex state (literals pre) := by
  induction ps generalizing state pre with
  | nil =>
    obtain ⟨rfl, -⟩ := List.nil_eq_append_iff.1 hps
    rfl
  | cons p ps ih =>
    cases pre with
    | nil => rfl
    | cons q pre =>
      obtain ⟨rfl, htail⟩ := List.cons.inj hps
      have hrest : ∀ w, .fragment w ∈ ps → d.Neutral w := fun w hw => hneutral w (by simp [hw])
      cases p with
      | literal c => exact ih hcode hrest htail
      | fragment w =>
        simp only [codeAtFragments, Bool.and_eq_true, decide_eq_true_eq] at hcode
        obtain ⟨rfl, hcode⟩ := hcode
        rw [written_cons, Dialect.lex_append, Piece.text, (hneutral w (by simp)).lex]
        exact ih hcode hrest htail

theorem classified_eq_literals {state : QuoteState} {ps : List Piece}
    (hcode : codeAtFragments d state ps) (hneutral : ∀ w, .fragment w ∈ ps → d.Neutral w) :
    classified d state ps = classified d state ((literals ps).map .literal) := by
  induction ps generalizing state with
  | nil => rfl
  | cons p ps ih =>
    have hrest : ∀ w, .fragment w ∈ ps → d.Neutral w := fun w hw => hneutral w (by simp [hw])
    cases p with
    | literal c => exact congrArg ((c, state) :: ·) (ih hcode hrest)
    | fragment w =>
      simp only [codeAtFragments, Bool.and_eq_true, decide_eq_true_eq] at hcode
      obtain ⟨rfl, hcode⟩ := hcode
      rw [classified, (hneutral w (by simp)).lex]
      exact ih hcode hrest

theorem neutral_writtenFor {kind : Placeholder} {v : Value} (h : d.Quotable (kind.identifiers v)) :
    d.Neutral (writtenFor d.escaper kind v) := by
  unfold writtenFor
  split
  next w hw => exact Dialect.neutral_fragment hw h
  next => rfl

theorem Admissible.neutral {t : Text} {args : List Value} (h : Admissible d t args) {w : Text}
    (hw : .fragment w ∈ pieces d.escaper t args) : d.Neutral w := by
  obtain ⟨u, v, arg, hb, rfl⟩ := binds_of_mem_pieces hw
  exact neutral_writtenFor (h.2 u v arg hb)

/-! ### Two runs -/

theorem codeAtFragments_congr {state : QuoteState} {ps qs : List Piece}
    (h : ps.map Piece.char? = qs.map Piece.char?) :
    codeAtFragments d state ps = codeAtFragments d state qs := by
  induction ps generalizing state qs with
  | nil => simp_all
  | cons p ps ih =>
    cases qs with
    | nil => simp at h
    | cons q qs =>
      obtain ⟨hpq, htail⟩ := List.cons.inj h
      cases p <;> cases q <;> cases hpq
      case literal.literal.refl c => exact ih htail
      case fragment.fragment.refl => simp [codeAtFragments, ih htail]

theorem literals_congr {ps qs : List Piece} (h : ps.map Piece.char? = qs.map Piece.char?) :
    literals ps = literals qs := by
  have hmap (l : List Piece) : literals l = (l.map Piece.char?).filterMap id := by
    simp [literals, List.filterMap_map]
  rw [hmap, hmap, h]

/-- Skip markers at the same indexes are at the same places of two lists of arguments
for one template. -/
theorem map_isSkip_congr {e : Escaper} {t s s' : Text} {args args' : List Value}
    (hs : build e t args = .ok s)
    (hs' : build e t args' = .ok s')
    (h : ∀ i : Nat, args[i]? = some .skip ↔ args'[i]? = some .skip) :
    args.map Value.isSkip = args'.map Value.isSkip := by
  have hl : args.length = args'.length := by
    rw [((exists_build_eq_ok_iff e t args).1 ⟨s, hs⟩).2.2,
      ((exists_build_eq_ok_iff e t args').1 ⟨s', hs'⟩).2.2]
  refine List.ext_getElem (by simpa using hl) fun i hi hi' => ?_
  rw [List.length_map] at hi hi'
  have hiff := h i
  rw [List.getElem?_eq_getElem hi, List.getElem?_eq_getElem hi', Option.some_inj,
    Option.some_inj] at hiff
  rw [List.getElem_map, List.getElem_map, Bool.eq_iff_iff, Value.isSkip_iff, Value.isSkip_iff]
  exact hiff

/-- The output of a build is outside of quotes before and after each argument, if the literal text
that is left without the arguments is so at their places. Its characters are then inside and
outside of quotes just as they are for any other arguments of the same template with the skip
markers at the same indexes. -/
theorem quotes_independent_of_arguments (d : Dialect) (t : Text) (args : List Value)
    (h : Admissible d t args)
    (hcode : ∀ pre w post, pieces d.escaper t args = pre ++ .fragment w :: post →
      d.lex .code (literals pre) = .code) :
    build d.escaper t args = .ok (written (pieces d.escaper t args)) ∧
    (∀ pre w post, pieces d.escaper t args = pre ++ .fragment w :: post →
      d.lex .code (written pre) = .code ∧ d.lex .code (written pre ++ w) = .code) ∧
    ∀ args', Admissible d t args' → (∀ i : Nat, args[i]? = some .skip ↔ args'[i]? = some .skip) →
      classified d .code (pieces d.escaper t args) =
        classified d .code (pieces d.escaper t args') := by
  have hall : codeAtFragments d .code (pieces d.escaper t args) := (codeAtFragments_iff _ _).2 hcode
  refine ⟨?_, fun pre w post hps => ?_, fun args' h' hskip => ?_⟩
  · obtain ⟨s, hs⟩ := h.1
    rw [hs, eq_written_of_build hs]
  · have hpre : d.lex .code (written pre) = .code := by
      rw [lex_written hall (fun w hw => h.neutral hw) hps]
      exact hcode pre w post hps
    refine ⟨hpre, ?_⟩
    rw [Dialect.lex_append, hpre]
    exact h.neutral (hps ▸ by simp)
  · obtain ⟨s, hs⟩ := h.1
    obtain ⟨s', hs'⟩ := h'.1
    have hsame := map_char?_pieces (e := d.escaper) t (map_isSkip_congr hs hs' hskip)
    have hall' : codeAtFragments d .code (pieces d.escaper t args') :=
      (codeAtFragments_congr hsame).symm.trans hall
    rw [classified_eq_literals hall fun w hw => h.neutral hw,
      classified_eq_literals hall' fun w hw => h'.neutral hw, literals_congr hsame]

/-- A string with quotes, a backslash and a comment, and a map with a quote in its key,
against plain arguments. -/
theorem quotes_of_hostile_arguments :
    Admissible .mysql "a = ?\x7b or ?# = 1\x7d or ?a".toList
      [.str "\\' or 1 -- ".toList, .skip, .map [("b\"".toList, .str "\x60'".toList)]] ∧
    Admissible .mysql "a = ?\x7b or ?# = 1\x7d or ?a".toList [.null, .skip, .list []] ∧
    classified .mysql .code (pieces Dialect.mysql.escaper "a = ?\x7b or ?# = 1\x7d or ?a".toList
        [.str "\\' or 1 -- ".toList, .skip, .map [("b\"".toList, .str "\x60'".toList)]]) =
      classified .mysql .code (pieces Dialect.mysql.escaper "a = ?\x7b or ?# = 1\x7d or ?a".toList
        [.null, .skip, .list []]) := by
  have h : Admissible .mysql "a = ?\x7b or ?# = 1\x7d or ?a".toList
      [.str "\\' or 1 -- ".toList, .skip, .map [("b\"".toList, .str "\x60'".toList)]] :=
    admissible_of_build (s := "a = '\\\\\\' or 1 -- ' or \x60b\"\x60 = '\x60\\''".toList) rfl
    (by decide +kernel)
  have h' : Admissible .mysql "a = ?\x7b or ?# = 1\x7d or ?a".toList [.null, .skip, .list []] :=
    admissible_of_build (s := "a = NULL or ".toList) rfl (by decide +kernel)
  have hcode :
      codeAtFragments .mysql .code
        (pieces Dialect.mysql.escaper "a = ?\x7b or ?# = 1\x7d or ?a".toList
          [.str "\\' or 1 -- ".toList, .skip, .map [("b\"".toList, .str "\x60'".toList)]]) := by
    decide
  have hsame := quotes_independent_of_arguments .mysql _ _ h ((codeAtFragments_iff _ _).1 hcode)
  refine ⟨h, h', hsame.2.2 _ h' fun i => ?_⟩
  rcases i with _ | _ | _ | i <;> simp

end SqlTemplate.Template
