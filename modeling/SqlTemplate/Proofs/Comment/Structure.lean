import SqlTemplate.Proofs.Comment.Fragment
import SqlTemplate.Proofs.Template.PieceOrigin

/-! Where the line comments of an output begin. No fragment opens one, and none ends in a dash that
something behind it could complete; what is left is the dash of a template with a fragment
right behind it that begins with another, as a negative number does. So the comments of
the output are those of the template exactly if there is no such place. -/

namespace SqlTemplate.Template

open CommentState (after after_append Passes)

/-- The characters of a piece, with whether an argument wrote them. -/
def Piece.marked : Piece → List (Char × Bool)
  | .literal c => [(c, false)]
  | .fragment w => w.map fun c => (c, true)

/-- The characters that pieces make up, with whether an argument wrote them. -/
def marked (ps : List Piece) : List (Char × Bool) := ps.flatMap Piece.marked

/-- Reading the output, each fragment is met outside of quotes and comments. -/
def MetOutside : List Piece → Prop := EachFragment fun pre _ => (after .code (written pre)).outside

instance (ps : List Piece) : Decidable (MetOutside ps) :=
  inferInstanceAs (Decidable (EachFragment _ ps))

/-- A fragment makes up two dashes with a character of the template. -/
def CompletesDash (pre : List Piece) (w : Text) : Prop :=
  (marked pre).getLast? = some ('-', false) ∧ w.head? = some '-'

instance (pre : List Piece) (w : Text) :
    Decidable (CompletesDash pre w) := inferInstanceAs (Decidable (_ ∧ _))

/-- Where two dashes stand outside of quotes, both of them are characters of the template. -/
def CommentsLiteral (ps : List Piece) : Prop :=
  ∀ u a b v, marked ps = u ++ ('-', a) :: ('-', b) :: v →
  (after .code (u.map Prod.fst)).quoted = false →
    a = false ∧ b = false

variable {ps pre post : List Piece} {w : Text}

/-! ### Marked characters -/

theorem marked_append (ps qs : List Piece) :
    marked (ps ++ qs) = marked ps ++ marked qs := List.flatMap_append

theorem map_fst_piece (p : Piece) : p.marked.map Prod.fst = p.text := by
  cases p <;> simp [Piece.marked, Piece.text, Function.comp_def]

theorem map_fst_marked (ps : List Piece) : (marked ps).map Prod.fst = written ps := by
  simp [marked, written, List.map_flatMap, map_fst_piece]

/-- A character that an argument wrote stands in a fragment. -/
theorem exists_fragment_of_marked {u v : List (Char × Bool)} {c : Char}
    (h : marked ps = u ++ (c, true) :: v) :
    ∃ pre x y post, ps = pre ++ .fragment (x ++ c :: y) :: post ∧
      u.map Prod.fst = written pre ++ x ∧ v = y.map (·, true) ++ marked post := by
  induction ps generalizing u with
  | nil => simp [marked] at h
  | cons p ps ih =>
    rcases append_eq_append_cons h with ⟨u', rfl, htail⟩ | ⟨rest, hp, hv⟩
    · obtain ⟨pre, x, y, post, rfl, hu', hv⟩ := ih htail
      refine ⟨p :: pre, x, y, post, rfl, ?_, hv⟩
      rw [List.map_append, hu', map_fst_piece, written_cons, List.append_assoc]
    · cases p with
      | literal d =>
        have : (c, true) ∈ Piece.marked (.literal d) := hp ▸ by simp
        simp [Piece.marked] at this
      | fragment w =>
        obtain ⟨x, r, rfl, rfl, hr⟩ := List.map_eq_append_iff.1 hp
        obtain ⟨d, y, rfl, hd, rfl⟩ := List.map_eq_cons_iff.1 hr
        cases hd
        exact ⟨[], x, y, ps, rfl, by simp [Function.comp_def], hv⟩

/-! ### From one fragment to the next -/

theorem eq_dash_of_step {state : CommentState} {c : Char} (h : state.step c = .dash) : c = '-' := by
  have henter : ∀ d, CommentState.enter d = .dash → d = '-' := by
    intro d
    unfold CommentState.enter
    split <;> simp
  cases state with
  | code => exact henter c h
  | dash =>
    simp only [CommentState.step] at h
    split at h
    next => cases h
    next => exact henter c h
  | single | double | comment =>
    simp only [CommentState.step] at h
    split at h <;> cases h

/-- What is outside of quotes behind a dash was so in front of it. -/
theorem quoted_of_step_dash {state : CommentState} (h : (state.step '-').outside) :
    state.quoted = false := by
  revert h
  cases state <;> decide

section

variable (hmet : MetOutside ps) (hpasses : ∀ w, .fragment w ∈ ps → Passes .code w .code)
  (hfree : EachFragment (fun pre w => ¬ CompletesDash pre w) ps)
include hmet hpasses hfree

/-- A fragment that is not empty leads back to code, if a dash in front of it is one
of the template. -/
theorem passes_of_dash (hps : ps = pre ++ .fragment w :: post) (hw : w ≠ [])
    (hdash : after .code (written pre) = .dash → (marked pre).getLast? = some ('-', false)) :
    Passes (after .code (written pre)) w .code := by
  have hpass := hpasses w (hps ▸ by simp)
  have hout := hmet pre w post hps
  cases hstate : after .code (written pre) with
  | code => exact hpass
  | dash => exact hpass.of_dash hw fun hhead => hfree pre w post hps ⟨hdash hstate, hhead⟩
  | single | double | comment => simp [hstate, CommentState.outside] at hout

/-- An output that stops right behind a dash of code stops behind a dash of the template. -/
theorem getLast?_of_dash (hps : ps = pre ++ post) (h : after .code (written pre) = .dash) :
    (marked pre).getLast? = some ('-', false) := by
  -- From the end: an empty fragment leaves the dash in front of it the last character.
  induction pre using List.reverseRecOn generalizing post with
  | nil => cases h
  | append_singleton pre p ih =>
    have hps : ps = pre ++ p :: post := by simpa using hps
    rw [written_append, after_append] at h
    rw [marked_append]
    cases p with
    | literal c =>
      obtain rfl : c = '-' := eq_dash_of_step h
      simp [marked, Piece.marked]
    | fragment w =>
      by_cases hw : w = []
      · subst hw
        simpa [marked, Piece.marked] using ih hps h
      · have hpass := passes_of_dash hmet hpasses hfree hps hw (ih hps)
        rw [show written [.fragment w] = w by simp [written, Piece.text], hpass.after_eq] at h
        cases h

/-- So no fragment opens a comment together with what stands in front of it. -/
theorem passes_of_fragment (hps : ps = pre ++ .fragment w :: post) (hw : w ≠ []) :
    Passes (after .code (written pre)) w .code :=
  passes_of_dash hmet hpasses hfree hps hw (getLast?_of_dash hmet hpasses hfree hps)

theorem commentsLiteral_of_free : CommentsLiteral ps := by
  intro u a b v hmarked hquoted
  -- Behind the first of the dashes, the second one opens a comment.
  have hfirst : (after .code (u.map Prod.fst)).step '-' = .dash ∨
      (after .code (u.map Prod.fst)).step '-' = .comment := by
    cases hstate : after .code (u.map Prod.fst) <;>
      simp [hstate, CommentState.quoted] at hquoted <;> decide
  have hb : b = false := by
    by_contra hb
    obtain rfl : b = true := by simpa using hb
    have hmarked : marked ps = (u ++ [('-', a)]) ++ ('-', true) :: v := by simpa using hmarked
    obtain ⟨pre, x, y, post, hps, hu, -⟩ := exists_fragment_of_marked hmarked
    refine (passes_of_fragment hmet hpasses hfree hps (by simp)).ne_comment rfl ?_
    rw [← after_append, ← List.append_assoc, ← hu, List.map_append, after_append, after_append]
    rcases hfirst with hfirst | hfirst <;> simp [hfirst] <;> rfl
  refine ⟨?_, hb⟩
  subst hb
  by_contra ha
  obtain rfl : a = true := by simpa using ha
  obtain ⟨pre, x, y, post, hps, hu, hv⟩ := exists_fragment_of_marked hmarked
  have hy : y = [] := by
    cases y with
    | nil => rfl
    | cons c y => simp at hv
  subst hy
  have hend := (passes_of_fragment hmet hpasses hfree hps (by simp)).after_eq
  rw [← after_append, ← List.append_assoc, ← hu, after_append] at hend
  rcases hfirst with hfirst | hfirst <;> simp [hfirst] at hend

end

theorem free_of_commentsLiteral (hmet : MetOutside ps) (h : CommentsLiteral ps) :
    EachFragment (fun pre w => ¬ CompletesDash pre w) ps := by
  rintro pre w post hps ⟨hlast, hhead⟩
  obtain ⟨u, hu⟩ := List.getLast?_eq_some_iff.1 hlast
  obtain ⟨w', rfl⟩ : ∃ w', w = '-' :: w' := List.head?_eq_some_iff.1 hhead
  have hout : (after .code (written pre)).outside := hmet pre _ post hps
  have hmarked : marked ps =
      u ++ ('-', false) :: ('-', true) :: (w'.map (·, true) ++ marked post) := by
    rw [hps, marked_append, hu]
    simp [marked, Piece.marked]
  have hquoted : (after .code (u.map Prod.fst)).quoted = false := by
    rw [← map_fst_marked, hu, List.map_append, after_append] at hout
    exact quoted_of_step_dash hout
  have := (h u false true _ hmarked hquoted).2
  cases this

theorem passes_writtenFor (kind : Placeholder) (v : Value) :
    Passes .code (writtenFor .ansi kind v) .code := by
  unfold writtenFor
  split
  next w hw => exact Passes.fragment hw
  next => exact .nil _

/-- If each argument is written outside of quotes and comments, the comments of the output
begin with dashes of the template, exactly if no argument that begins with a dash stands
right behind one. -/
theorem commentsLiteral_iff (t : Text) (args : List Value) (hs : ∃ s, build .ansi t args = .ok s)
    (hmet : MetOutside (pieces .ansi t args)) :
    build .ansi t args = .ok (written (pieces .ansi t args)) ∧
      (CommentsLiteral (pieces .ansi t args) ↔
        EachFragment (fun pre w => ¬ CompletesDash pre w) (pieces .ansi t args)) := by
  have hpasses : ∀ w, .fragment w ∈ pieces .ansi t args → Passes .code w .code := by
    intro w hw
    obtain ⟨u, v, arg, -, rfl⟩ := binds_of_mem_pieces hw
    exact passes_writtenFor _ arg
  refine ⟨?_, free_of_commentsLiteral hmet, commentsLiteral_of_free hmet hpasses⟩
  obtain ⟨s, hs⟩ := hs
  rw [hs, eq_written_of_build hs]

/-- Negative numbers with a blank in front of them, and dashes in a text and a name. -/
theorem commentsLiteral_of_negative_numbers :
    (∃ s, build .ansi "a - ?d, ?#, ?a -- b".toList
      [.int (-1), .str "--".toList, .list [.int (-2), .str "--".toList, .int (-3)]] = .ok s) ∧
    CommentsLiteral (pieces .ansi "a - ?d, ?#, ?a -- b".toList
      [.int (-1), .str "--".toList, .list [.int (-2), .str "--".toList, .int (-3)]]) := by
  have hs : ∃ s, build .ansi "a - ?d, ?#, ?a -- b".toList
      [.int (-1), .str "--".toList, .list [.int (-2), .str "--".toList, .int (-3)]] = .ok s :=
    ⟨"a - -1, \"--\", -2, '--', -3 -- b".toList, by decide +kernel⟩
  exact ⟨hs, (commentsLiteral_iff _ _ hs (by decide +kernel)).2.2 (by decide +kernel)⟩

/-- A template can leave a dash right in front of a number. -/
theorem not_commentsLiteral_of_negative_number :
    ¬ ∀ t args, (∃ s, build .ansi t args = .ok s) → MetOutside (pieces .ansi t args) →
      CommentsLiteral (pieces .ansi t args) := by
  intro h
  have hcomments :=
    h "5-?d".toList [.int (-1)] ⟨"5--1".toList, by decide +kernel⟩ (by decide +kernel)
  have := hcomments [('5', false)] false true [('1', true)] (by decide +kernel) rfl
  exact absurd this (by decide)

end SqlTemplate.Template
