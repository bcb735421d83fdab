import SqlTemplate.Proofs.Quoting.Fragment
import SqlTemplate.Proofs.Quoting.Literal
import SqlTemplate.Proofs.Template.Acceptance

/-! Lists in SQL text. The elements of a list are found again by splitting it at every `", "`
outside of string literals: no element has a comma there, whatever its text holds, and nested lists
are written in place, so the pieces are the literals of the leaves. -/

namespace SqlTemplate

/-- Values made of lists alone, of which none is empty. -/
inductive Value.ListTree : Value → Prop
  | leaf {v : Value} (hv : v.isComposite = false) : ListTree v
  | list {items : List Value} (hne : items ≠ []) (hitems : ∀ v ∈ items, ListTree v) :
    ListTree (.list items)

namespace Dialect

variable {d : Dialect} {state state' state'' : QuoteState} {s t : Text} {c : Char}

/-- The state behind a character where only string literals count: outside of them, quotes of other
kinds are characters like any. -/
def stringStep (d : Dialect) : QuoteState → Char → QuoteState
  | .code, c => if c = '\'' then .quoted c else .code
  | state, c => d.step state c

/-- The pieces of a text between the separators outside of string literals. -/
def splitItems (d : Dialect) : QuoteState → Text → List Text
  | _, [] => [[]]
  | .code, ',' :: ' ' :: r => [] :: splitItems d .code r
  | state, c :: r => (splitItems d (d.stringStep state c) r).modifyHead (c :: ·)

/-- Reading a text leads from a state to another, past no comma outside of string literals. -/
inductive Unbroken (d : Dialect) : QuoteState → Text → QuoteState → Prop
  | nil (state : QuoteState) : Unbroken d state [] state
  | cons {state state' : QuoteState} {c : Char} {t : Text} :
    (state = .code → c ≠ ',') → Unbroken d (d.stringStep state c) t state' →
    Unbroken d state (c :: t) state'

/-! ### Splitting -/

theorem splitItems_cons (h : state = .code → c ≠ ',') (t : Text) :
    d.splitItems state (c :: t) = (d.splitItems (d.stringStep state c) t).modifyHead (c :: ·) := by
  rw [splitItems]
  intro r hstate hc
  exact absurd hc (h hstate)

namespace Unbroken

theorem append (hs : Unbroken d state s state') (ht : Unbroken d state' t state'') :
    Unbroken d state (s ++ t) state'' := by
  induction hs with
  | nil => exact ht
  | cons hc _ ih => exact .cons hc (ih ht)

theorem flatMap {f : Char → Text} (h : ∀ c, Unbroken d state (f c) state) (t : Text) :
    Unbroken d state (t.flatMap f) state := by
  induction t with
  | nil => exact .nil _
  | cons c t ih => exact (h c).append ih

theorem of_forall (h : ∀ c ∈ t, c ≠ ',' ∧ c ≠ '\'') : Unbroken d .code t .code := by
  induction t with
  | nil => exact .nil _
  | cons c t ih =>
    obtain ⟨hcomma, hquote⟩ := h c (by simp)
    have hstep : d.stringStep .code c = .code := if_neg hquote
    refine .cons (fun _ => hcomma) ?_
    rw [hstep]
    exact ih fun x hx => h x (by simp [hx])

/-- A text without a separator stays in one piece, in front of what follows it. -/
theorem splitItems_append (h : Unbroken d state t state') (r : Text) :
    d.splitItems state (t ++ r) = (d.splitItems state' r).modifyHead (t ++ ·) := by
  induction h with
  | nil => exact (congrFun List.modifyHead_id _).symm
  | cons hc _ ih =>
    rw [List.cons_append, splitItems_cons hc, ih, List.modifyHead_modifyHead]
    rfl

end Unbroken

theorem splitItems_joined {ts : List Text} (hne : ts ≠ [])
    (h : ∀ t ∈ ts, d.Unbroken .code t .code) : d.splitItems .code (Text.joined ts) = ts := by
  induction ts with
  | nil => exact absurd rfl hne
  | cons t ts ih =>
    have ht := h t (by simp)
    cases ts with
    | nil =>
      have hend := ht.splitItems_append []
      rw [List.append_nil] at hend
      rw [Text.joined, hend]
      simp [splitItems]
    | cons u us =>
      have ih := ih (List.cons_ne_nil u us) fun x hx => h x (by simp [hx])
      rw [Text.joined_cons_cons, ht.splitItems_append, splitItems, ih]
      simp

/-! ### Literals of scalars -/

theorem unbroken_of_isNumeric (h : ∀ c ∈ t, Decimal.isNumeric c) : d.Unbroken .code t .code := by
  refine .of_forall fun c hc => ⟨?_, ?_⟩ <;> rintro rfl <;> exact absurd (h _ hc) (by decide)

theorem unbroken_backslashed (c : Char) :
    mysql.Unbroken (.quoted '\'') (Escaper.backslashed c) (.quoted '\'') := by
  unfold Escaper.backslashed
  split
  -- Any character but seven stays as it is, and these seven have the backslash and the quote among
  -- them.
  case h_8 hbackslash hquote _ _ =>
    have hb : c ≠ '\\' := hbackslash
    have hq : c ≠ '\'' := hquote
    have hstep : mysql.stringStep (.quoted '\'') c = .quoted '\'' := by
      simp [stringStep, step, hb, hq]
    refine .cons (by simp) ?_
    rw [hstep]
    exact .nil _
  all_goals exact .cons (by simp) (.cons (by simp) (.nil _))

theorem unbroken_doubled (c : Char) :
    ansi.Unbroken (.quoted '\'') (if c = '\'' then [c, c] else [c]) (.quoted '\'') := by
  split
  next hc =>
    subst hc
    exact .cons (by simp) (.cons (by simp) (.nil _))
  next hc =>
    have hstep : ansi.stringStep (.quoted '\'') c = .quoted '\'' := by
      simp [stringStep, step, hc, hasEscapes]
    refine .cons (by simp) ?_
    rw [hstep]
    exact .nil _

theorem unbroken_string (d : Dialect) (s : Text) :
    d.Unbroken .code ('\'' :: d.escaper.escape s ++ ['\'']) .code := by
  have hinside : d.Unbroken (.quoted '\'') (d.escaper.escape s) (.quoted '\'') := by
    rw [escape_eq_rewritten]
    cases d with
    | mysql => exact .flatMap unbroken_backslashed s
    | ansi => exact .flatMap unbroken_doubled s
  have hend : d.Unbroken (.quoted '\'') ['\''] .code := .cons (by simp) (.nil _)
  exact .cons (by simp) (hinside.append hend)

/-- The literal of a value that holds no others has no comma outside of string literals. -/
theorem unbroken_literal {v : Value} {w : Text} (hv : v.isComposite = false)
    (h : Template.literal d.escaper v = .ok w) : d.Unbroken .code w .code := by
  cases v with
  | null => cases h; exact .of_forall (by simp)
  | bool b => cases h; cases b <;> exact .of_forall (by simp)
  | int n => cases h; exact unbroken_of_isNumeric fun c hc => Decimal.isNumeric_of_mem_intText hc
  | float x =>
    obtain ⟨-, rfl⟩ := Template.doubleLiteral_eq_ok h
    exact unbroken_of_isNumeric fun c hc => Decimal.isNumeric_of_mem_doubleText hc
  | str s => cases h; exact unbroken_string d s
  | list _ | map _ => cases hv
  | skip | host _ => cases h

theorem unbroken_literals {us : List Value} {ts : List Text} (hus : ∀ u ∈ us, u.isComposite = false)
    (h : List.Forall₂ (fun u t => Template.literal d.escaper u = .ok t) us ts) :
    ∀ t ∈ ts, d.Unbroken .code t .code := by
  induction h with
  | nil => simp
  | cons ht _ ih =>
    obtain ⟨hu, hus⟩ := List.forall_mem_cons.1 hus
    exact List.forall_mem_cons.2 ⟨unbroken_literal hu ht, ih hus⟩

end Dialect

/-! ### Lists of lists -/

namespace Template

variable {e : Escaper} {v : Value} {w : Text}

theorem forall₂_itemLiterals {items : List Value} {ws : List Text}
    (h : itemLiterals e items = .ok ws) :
    List.Forall₂ (fun v w => literal e v = .ok w) items ws := by
  induction items generalizing ws with
  | nil => cases h; exact .nil
  | cons v vs ih =>
    obtain ⟨w, hw, h⟩ := bind_eq_ok h
    obtain ⟨ws, hws, rfl⟩ := map_eq_ok h
    exact .cons hw (ih hws)

theorem joined_flatten {tss : List (List Text)} (h : ∀ ts ∈ tss, ts ≠ []) :
    Text.joined (tss.map Text.joined) = Text.joined tss.flatten := by
  induction tss with
  | nil => rfl
  | cons ts tss ih =>
    have ih := ih fun us hus => h us (by simp [hus])
    cases tss with
    | nil => simp [Text.joined]
    | cons us tss =>
      have hus : (us :: tss).flatten ≠ [] := by simp [h us]
      rw [List.flatten_cons, Text.joined_append (h ts (by simp)) hus, ← ih]
      rfl

/-- The texts are the literals of the leaves of a value, in order. -/
def LeafLiterals (e : Escaper) (v : Value) (ts : List Text) : Prop :=
  List.Forall₂ (fun u t => literal e u = .ok t) v.leaves ts

theorem exists_leafLiterals {items : List Value} {ws : List Text}
    (h : List.Forall₂ (fun v w => literal e v = .ok w) items ws)
    (hitems : ∀ v ∈ items, ∀ w, literal e v = .ok w → ∃ ts, ts ≠ [] ∧ LeafLiterals e v ts ∧
      w = Text.joined ts) :
    ∃ tss, (∀ ts ∈ tss, ts ≠ []) ∧ List.Forall₂ (LeafLiterals e) items tss ∧
    ws = tss.map Text.joined := by
  induction h with
  | nil => exact ⟨[], by simp, .nil, rfl⟩
  | cons hw _ ih =>
    obtain ⟨ts, hne, hts, rfl⟩ := hitems _ (by simp) _ hw
    obtain ⟨tss, hnes, htss, rfl⟩ := ih fun v hv => hitems v (by simp [hv])
    exact ⟨ts :: tss, List.forall_mem_cons.2 ⟨hne, hnes⟩, .cons hts htss, rfl⟩

/-- A list of lists is written as the list of its leaves. -/
theorem literal_listTree (hform : v.ListTree) (h : literal e v = .ok w) :
    ∃ ts, ts ≠ [] ∧ LeafLiterals e v ts ∧ w = Text.joined ts := by
  induction hform generalizing w with
  | leaf hv =>
    refine ⟨[w], by simp, ?_, rfl⟩
    rw [LeafLiterals, Value.leaves_of_isComposite hv]
    exact .cons h .nil
  | @list items hne hitems ih =>
    obtain ⟨ws, hws, rfl⟩ := map_eq_ok h
    obtain ⟨tss, hnes, htss, rfl⟩ :=
      exists_leafLiterals (forall₂_itemLiterals hws) fun v hv w hw => ih v hv hw
    have hleaves : LeafLiterals e (.list items) tss.flatten := by
      rw [LeafLiterals, Value.leaves_list, List.flatMap_def]
      exact List.rel_flatten (List.forall₂_map_left_iff.2 htss)
    refine ⟨tss.flatten, ?_, hleaves, joined_flatten hnes⟩
    cases htss with
    | nil => exact absurd rfl hne
    | cons _ _ => simp [hnes]

end Template

namespace Dialect

/-- Splitting what the array placeholder writes for a list of lists, none of them empty, gives
what the untyped placeholder writes for each of its leaves, in order and one piece each, whatever
the leaves hold. -/
theorem splitItems_fragment (d : Dialect) (items : List Value) (hform : (Value.list items).ListTree)
    (h : Placeholder.array.Accepts (.list items)) :
    ∃ w, Template.fragment d.escaper .array (.list items) = .ok w ∧
      List.Forall₂ (fun u piece => Template.fragment d.escaper .generic u = .ok piece)
        (Value.list items).leaves (d.splitItems .code w) := by
  obtain ⟨w, hw⟩ := Template.fragment_accepted_iff.2 h
  obtain ⟨ts, hne, hts, rfl⟩ := Template.literal_listTree hform (Template.fragment_array hw).2
  have hscalar : ∀ u ∈ (Value.list items).leaves, u.isComposite = false := fun u hu =>
    Value.isComposite_of_mem_leaves hu
  refine ⟨_, hw, ?_⟩
  rw [splitItems_joined hne (unbroken_literals hscalar hts)]
  refine ((List.forall₂_and_left _ _).2 ⟨hscalar, hts⟩).imp fun u t ⟨hu, ht⟩ => ?_
  rw [Template.fragment_generic_eq, hu]
  exact ht

theorem splitItems_fragment_of_hostile_texts :
    (Value.list [.str "a', 'b\\".toList, .list [.int (-1), .list [.str "), '".toList]],
      .str ", ".toList]).ListTree ∧
    Placeholder.array.Accepts
      (.list [.str "a', 'b\\".toList, .list [.int (-1), .list [.str "), '".toList]],
        .str ", ".toList]) ∧
    ∃ w, Template.fragment mysql.escaper .array
        (.list [.str "a', 'b\\".toList, .list [.int (-1), .list [.str "), '".toList]],
          .str ", ".toList]) = .ok w ∧
      w = "'a\\', \\'b\\\\', -1, '), \\'', ', '".toList ∧
      List.Forall₂ (fun u piece => Template.fragment mysql.escaper .generic u = .ok piece)
        [.str "a', 'b\\".toList, .int (-1), .str "), '".toList, .str ", ".toList]
        (mysql.splitItems .code w) := by
  have hform : (Value.list [.str "a', 'b\\".toList, .list [.int (-1), .list [.str "), '".toList]],
      .str ", ".toList]).ListTree := by
    refine .list (by simp) (List.forall_mem_cons.2 ⟨.leaf rfl, List.forall_mem_cons.2 ⟨?_, ?_⟩⟩)
    · refine .list (by simp) (List.forall_mem_cons.2 ⟨.leaf rfl, List.forall_mem_singleton.2 ?_⟩)
      exact .list (by simp) (List.forall_mem_singleton.2 (.leaf rfl))
    · exact List.forall_mem_singleton.2 (.leaf rfl)
  have haccepts : Placeholder.array.Accepts
      (.list [.str "a', 'b\\".toList, .list [.int (-1), .list [.str "), '".toList]],
        .str ", ".toList]) :=
    ⟨rfl, by simp [Value.leaves, Value.itemLeaves, Value.Ordinary]⟩
  obtain ⟨w, hw, hpieces⟩ := splitItems_fragment .mysql _ hform haccepts
  refine ⟨hform, haccepts, w, hw, ?_, hpieces⟩
  exact Except.ok.inj (hw.symm.trans rfl)

end Dialect

end SqlTemplate
