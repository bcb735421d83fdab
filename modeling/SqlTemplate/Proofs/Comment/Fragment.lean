import SqlTemplate.Proofs.Comment.Lexer
import SqlTemplate.Proofs.Decimal.Shortest
import SqlTemplate.Proofs.Quoting.Fragment

/-! What an argument writes opens no comment of itself. The sign of a number and that of its
exponent stand in front of digits, texts and names stand in quotes, and what joins them is
free of dashes; so reading a fragment leads from code back to code, never right behind a
dash. -/

namespace SqlTemplate.CommentState.Passes

/-! ### Numbers -/

theorem enter_of_isDigit {c : Char} (h : c.isDigit) : enter c = .code := by
  unfold enter
  split <;> first | rfl | exact absurd h (by decide)

theorem head?_ne_dash {t : Text} (h : ∀ c ∈ t, enter c = .code) : t.head? ≠ some '-' := by
  intro hhead
  exact absurd (h _ (List.mem_of_head? hhead)) (by decide)

theorem enter_of_mem_natText {n : Nat} {c : Char} (h : c ∈ Decimal.natText n) : enter c = .code :=
  enter_of_isDigit (Decimal.isDigit_of_mem_natText h)

theorem natText (n : Nat) : Passes .code (Decimal.natText n) .code :=
  of_forall fun _ hc => enter_of_mem_natText hc

/-- A sign in front of a number is no part of two dashes. -/
theorem negative {t : Text} (h : Passes .code t .code) (hne : t ≠ []) (hdash : t.head? ≠ some '-') :
    Passes .code ('-' :: t) .code :=
  .cons (by decide) (h.of_dash hne hdash)

theorem negative_natText (n : Nat) : Passes .code ('-' :: Decimal.natText n) .code :=
  (natText n).negative (Decimal.natText_ne_nil n)
  (head?_ne_dash fun _ hc => enter_of_mem_natText hc)

theorem intText (n : Int) : Passes .code (Decimal.intText n) .code := by
  unfold Decimal.intText
  split
  next => exact negative_natText n.natAbs
  next => exact natText n.natAbs

/-- A number as it is written behind its sign: it begins with another character than a dash. -/
structure Unsigned (t : Text) : Prop where
  passes : Passes .code t .code
  ne_nil : t ≠ []
  head?_ne : t.head? ≠ some '-'

theorem unsigned_of_forall {t : Text} (h : ∀ c ∈ t, enter c = .code) (hne : t ≠ []) : Unsigned t :=
  ⟨of_forall h, hne, head?_ne_dash h⟩

theorem Unsigned.append {s t : Text} (hs : Unsigned s) (ht : Passes .code t .code) :
    Unsigned (s ++ t) := by
  obtain ⟨c, s', rfl⟩ := List.exists_cons_of_ne_nil hs.ne_nil
  exact ⟨hs.passes.append ht, List.cons_ne_nil c _, hs.head?_ne⟩

theorem unsigned_positional {digits : Text} (hd : ∀ c ∈ digits, c.isDigit) (hne : digits ≠ [])
    (place : Int) : Unsigned (Decimal.positional digits place) := by
  refine unsigned_of_forall (fun c hc => ?_) (Decimal.positional_ne_nil hne place)
  rcases Decimal.isDigit_or_point_of_mem_positional hd hc with hc | rfl
  · exact enter_of_isDigit hc
  · rfl

theorem unsigned_scientific {digits : Text} (hd : ∀ c ∈ digits, c.isDigit) (place : Int) :
    Unsigned (Decimal.scientific digits place) := by
  unfold Decimal.scientific
  refine .append (unsigned_of_forall (fun c hc => ?_) (by simp)) (.cons (by decide) ?_)
  · rcases List.mem_append.1 hc with hc | hc
    · exact enter_of_isDigit (hd c (List.mem_of_mem_take hc))
    rcases List.mem_cons.1 hc with rfl | hc
    · rfl
    split at hc
    next =>
      obtain rfl := List.mem_singleton.1 hc
      rfl
    next => exact enter_of_isDigit (hd c (List.mem_of_mem_drop hc))
  · split
    next => exact negative_natText _
    next => exact .cons (by decide) (natText _)

theorem unsigned_grainsText {n : Nat} (h : n ≠ 0) : Unsigned (Decimal.grainsText n) := by
  have hd :
      ∀ c ∈ (Decimal.withoutZeros (Decimal.natText (Decimal.shortest n).1)
        (Decimal.shortest n).2).1, c.isDigit :=
    fun c hc => Decimal.isDigit_of_mem_natText (Decimal.mem_of_mem_withoutZeros hc)
  have hne := Decimal.withoutZeros_ne_nil (Decimal.shortest_ne_zero h) (Decimal.shortest n).2
  unfold Decimal.grainsText Decimal.notate
  simp only
  split
  next => exact unsigned_scientific hd _
  next => exact unsigned_positional hd hne _

theorem doubleText (x : Binary64) : Passes .code (Decimal.doubleText x) .code := by
  have htext : Unsigned (if x.grains = 0 then ['0'] else Decimal.grainsText x.grains) := by
    split
    next => exact unsigned_of_forall (List.forall_mem_singleton.2 rfl) (List.cons_ne_nil _ _)
    next h => exact unsigned_grainsText h
  unfold Decimal.doubleText
  simp only
  split
  next => exact htext.passes.negative htext.ne_nil htext.head?_ne
  next => exact htext.passes

/-! ### Quoted texts -/

theorem doubled_single (c : Char) : Passes .single (if c = '\'' then [c, c] else [c]) .single := by
  split
  next hc =>
    subst hc
    exact .cons (by decide) (.cons (by decide) (.nil _))
  next hc =>
    have hstep : step .single c = .single := if_neg hc
    refine .cons (by rw [hstep]; decide) ?_
    rw [hstep]
    exact .nil _

theorem doubled_double (c : Char) : Passes .double (if c = '"' then [c, c] else [c]) .double := by
  split
  next hc =>
    subst hc
    exact .cons (by decide) (.cons (by decide) (.nil _))
  next hc =>
    have hstep : step .double c = .double := if_neg hc
    refine .cons (by rw [hstep]; decide) ?_
    rw [hstep]
    exact .nil _

theorem string (s : Text) : Passes .code ('\'' :: Escaper.ansi.escape s ++ ['\'']) .code := by
  rw [Escaper.ansi_escape]
  exact .cons (by decide) ((flatMap doubled_single s).append (.cons (by decide) (.nil _)))

theorem identifier (name : Text) : Passes .code (Escaper.ansi.identifier name) .code :=
  .cons (by decide) ((flatMap doubled_double name).append (.cons (by decide) (.nil _)))

/-! ### Fragments -/

theorem literalClosed : Template.LiteralClosed .ansi fun w => Passes .code w .code where
  null := of_all (by decide)
  bool b := by cases b <;> exact of_all (by decide)
  int := intText
  double := doubleText
  string := string
  entry hname hvalue :=
    hname.append (.cons (by decide) (.cons (by decide) (.cons (by decide) hvalue)))
  joined := joined

/-- Whatever a placeholder writes for a value is read from code back to code without a comment. -/
theorem fragment {kind : Placeholder} {v : Value} {w : Text}
    (h : Template.fragment .ansi kind v = .ok w) : Passes .code w .code :=
  literalClosed.fragment h fun name _ => identifier name

end SqlTemplate.CommentState.Passes
