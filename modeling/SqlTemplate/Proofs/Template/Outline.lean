import SqlTemplate.Proofs.Template.Binding
import SqlTemplate.Proofs.Template.Braces

/-! What an outline says of its template. A template has one exactly if its braces are pairs of an
opening and a closing one. It then lists every question mark in order, with its byte
position, its type and whether more braces open before it than close; and otherwise the
error is that of the first brace with which the braces cannot be such pairs any more. -/

namespace SqlTemplate.Template

variable {t u v : Text} {c : Char} {err : TemplateError} {o : Outline}

/-- The braces of a text are the beginning of pairs. -/
def AlternatingSoFar (t : Text) : Prop :=
  ∃ n, t.filter isBrace <+: (List.replicate n ['\x7b', '\x7d']).flatten

/-! ### The first brace at fault -/

theorem braceFault_after (u : Text) (c : Char) (v w : Text) :
    braceFault u c v = braceFault u c w := by
  unfold braceFault
  split <;> rfl

theorem faultless_append_singleton :
    Faultless braceFault (u ++ [c]) ↔ Faultless braceFault u ∧ braceFault u c [] = none := by
  constructor
  · intro h
    refine ⟨fun b d w hu => ?_, h u c [] rfl⟩
    rw [braceFault_after b d w (w ++ [c])]
    exact h b d (w ++ [c]) (by simp [hu])
  · rintro ⟨hu, hc⟩ b d w h
    rcases List.eq_nil_or_concat w with rfl | ⟨w, x, rfl⟩
    · obtain ⟨rfl, rfl⟩ : u = b ∧ c = d := by simpa using h
      exact hc
    · rw [List.concat_eq_append, ← List.cons_append, ← List.append_assoc] at h
      obtain ⟨hu', -⟩ := List.append_inj' h rfl
      rw [braceFault_after b d _ w]
      exact hu b d w hu'

/-- Without a fault the braces are pairs, but for the one that opens the last block. -/
theorem exists_pairs_of_faultless (h : Faultless braceFault t) :
    ∃ n, t.filter isBrace =
      (List.replicate n ['\x7b', '\x7d']).flatten ++
        if (openIn t).isSome then ['\x7b'] else [] := by
  induction t using List.reverseRecOn with
  | nil => exact ⟨0, rfl⟩
  | append_singleton u c ih =>
    obtain ⟨hu, hc⟩ := faultless_append_singleton.1 h
    obtain ⟨n, hn⟩ := ih hu
    by_cases ho : c = '\x7b'
    · subst ho
      have hclosed : openIn u = none := by simpa [braceFault] using hc
      exact ⟨n, by simp [hn, hclosed, isBrace]⟩
    by_cases hcl : c = '\x7d'
    · subst hcl
      have hopen : (openIn u).isSome := by simpa [braceFault, Option.isSome_iff_ne_none] using hc
      exact ⟨n + 1, by simp [hn, hopen, isBrace, List.replicate_succ']⟩
    have hbrace := isBrace_eq_false ho hcl
    exact ⟨n, by simp [hn, hbrace, openIn_append_singleton u hbrace]⟩

theorem pairs_append_prefix {n m : ℕ} {l : Text}
    (h : (List.replicate n ['\x7b', '\x7d']).flatten ++
      l <+: (List.replicate m ['\x7b', '\x7d']).flatten) :
    ∃ k, l <+: (List.replicate k ['\x7b', '\x7d']).flatten := by
  induction n generalizing m with
  | zero => exact ⟨m, by simpa using h⟩
  | succ n ih =>
    cases m with
    | zero => simp [List.replicate_succ] at h
    | succ m =>
      refine ih (m := m) ?_
      simpa [List.replicate_succ, List.cons_prefix_cons] using h

theorem alternatingSoFar_of_append (h : AlternatingSoFar (u ++ v)) : AlternatingSoFar u := by
  obtain ⟨n, hn⟩ := h
  rw [List.filter_append] at hn
  exact ⟨n, (List.prefix_append _ _).trans hn⟩

/-- The braces can still be pairs as long as none is at fault. -/
theorem alternatingSoFar_iff : AlternatingSoFar t ↔ Faultless braceFault t := by
  constructor
  · intro h
    induction t using List.reverseRecOn with
    | nil => rintro b d w hd; simp at hd
    | append_singleton u c ih =>
      have hu := ih (alternatingSoFar_of_append h)
      refine faultless_append_singleton.2 ⟨hu, ?_⟩
      obtain ⟨m, hm⟩ := h
      obtain ⟨n, hn⟩ := exists_pairs_of_faultless hu
      rw [List.filter_append, hn, List.append_assoc] at hm
      obtain ⟨k, hk⟩ := pairs_append_prefix hm
      -- What follows the pairs is the brace of an open block, if there is one, and
      -- the new character.
      by_contra hfault
      by_cases ho : c = '\x7b'
      · subst ho
        have hopen : (openIn u).isSome := by
          simpa [braceFault, Option.isSome_iff_ne_none] using hfault
        cases k <;> simp [hopen, isBrace, List.replicate_succ] at hk
      by_cases hcl : c = '\x7d'
      · subst hcl
        have hclosed : openIn u = none := by simpa [braceFault] using hfault
        cases k <;> simp [hclosed, isBrace, List.replicate_succ] at hk
      exact hfault (by unfold braceFault; split <;> simp_all)
  · intro h
    obtain ⟨n, hn⟩ := exists_pairs_of_faultless h
    refine ⟨n + 1, ?_⟩
    rw [hn, List.replicate_succ', List.flatten_append, List.prefix_append_right_inj]
    split
    next => exact ⟨['\x7d'], rfl⟩
    next => exact List.nil_prefix

/-- The brace that is at fault first is the first with which the braces do not alternate. -/
theorem isFirstFault_braceFault_iff :
    IsFirstFault braceFault t err ↔ ∃ u c v, t = u ++ c :: v ∧ AlternatingSoFar u ∧
    ¬AlternatingSoFar (u ++ [c]) ∧
      err = if c = '\x7b' then .nesting u.size else .unmatchedClose u.size := by
  have hfault (u : Text) (c : Char) (v : Text) (err : TemplateError)
    (h : braceFault u c v = some err) :
      err = if c = '\x7b' then .nesting u.size else .unmatchedClose u.size := by
    unfold braceFault at h
    split at h
    next => simp_all
    next => split at h <;> simp_all
    next => cases h
  simp only [alternatingSoFar_iff, faultless_append_singleton, not_and]
  constructor
  · rintro ⟨u, c, v, rfl, hc, hlt⟩
    refine ⟨u, c, v, rfl, fun b d w hu => ?_, fun _ hnone => ?_, hfault u c v err hc⟩
    · rw [braceFault_after b d w (w ++ c :: v)]
      exact hlt b d _ (by simp [hu]) (by simp [hu])
    · rw [braceFault_after u c v [], hnone] at hc
      cases hc
  · rintro ⟨u, c, v, rfl, hu, hc, rfl⟩
    obtain ⟨err, herr⟩ := Option.ne_none_iff_exists'.1 (hc hu)
    rw [braceFault_after u c [] v] at herr
    refine ⟨u, c, v, rfl, ?_, fun b d w hb hlt => ?_⟩
    · rw [herr, hfault u c v err herr]
    · rcases append_eq_append_cons hb with ⟨s, rfl, -⟩ | ⟨w', hw, -⟩
      · rw [List.length_append] at hlt
        omega
      · rw [braceFault_after b d w w']
        exact hu b d w' hw

/-! ### Slots and blocks -/

/-- The slots of a text that stands behind another. -/
def slotsBehind : Text → Text → List Slot
  | _, [] => []
  | u, c :: r =>
    if c = '?' then ⟨Placeholder.before r, u.size, (openIn u).isSome⟩ :: slotsBehind (u ++ [c]) r
    else slotsBehind (u ++ [c]) r

theorem slotsBehind_append {s : Text} (h : '?' ∉ s) (u r : Text) :
    slotsBehind u (s ++ r) = slotsBehind (u ++ s) r := by
  induction s generalizing u with
  | nil => simp
  | cons c s ih =>
    obtain ⟨hc, hs⟩ : '?' ≠ c ∧ '?' ∉ s := by simpa using h
    rw [List.cons_append, slotsBehind, if_neg hc.symm, ih hs, List.append_assoc,
      List.singleton_append]

theorem slotsBehind_question (u r : Text) :
    slotsBehind u ('?' :: r) =
      ⟨Placeholder.before r, u.size, (openIn u).isSome⟩ ::
        slotsBehind (u ++ '?' :: suffixOf r) (afterSuffix r) := by
  have hsuffix : '?' ∉ suffixOf r := List.count_eq_zero.1 (count_suffixOf r)
  have hafter := slotsBehind_append hsuffix (u ++ ['?']) (afterSuffix r)
  rw [suffixOf_append_afterSuffix, List.append_assoc, List.singleton_append] at hafter
  rw [slotsBehind, if_pos rfl, hafter]

theorem length_slotsBehind (u t : Text) : (slotsBehind u t).length = t.count '?' := by
  induction t generalizing u with
  | nil => rfl
  | cons c r ih =>
    by_cases hc : c = '?'
    · simp [slotsBehind, hc, ih]
    · simp [slotsBehind, hc, ih]

theorem getElem?_slotsBehind (u a b : Text) :
    (slotsBehind u (a ++ '?' :: b))[a.count '?']? =
      some ⟨Placeholder.before b, (u ++ a).size, (openIn (u ++ a)).isSome⟩ := by
  induction a generalizing u with
  | nil => simp [slotsBehind]
  | cons c a ih =>
    have ih := ih (u ++ [c])
    rw [List.append_assoc, List.singleton_append] at ih
    by_cases hc : c = '?'
    · simpa [slotsBehind, hc] using ih
    · simpa [slotsBehind, hc] using ih

/-- Outlining lists the slots character by character and counts the blocks that it closes. -/
theorem eq_of_outlineText (h : outlineText u.size t (openIn u) = .ok o) :
    o = ⟨slotsBehind u t, t.count '\x7d'⟩ := by
  induction t using scanInduction generalizing u o with
  | nil =>
    cases hu : openIn u with
    | none =>
      rw [hu] at h
      cases h
      rfl
    | some p =>
      rw [hu] at h
      cases h
  | opening r ih =>
    have ih := ih (u := u ++ ['\x7b']) (o := o)
    rw [openIn_append_opening, Text.size_append] at ih
    cases hu : openIn u with
    | none =>
      rw [hu] at h
      simpa [slotsBehind] using ih h
    | some p =>
      rw [hu] at h
      cases h
  | closing r ih =>
    have ih := @ih (u ++ ['\x7d'])
    rw [openIn_append_closing, Text.size_append] at ih
    cases hu : openIn u with
    | none =>
      rw [hu] at h
      cases h
    | some p =>
      rw [hu] at h
      obtain ⟨o', ho', rfl⟩ := map_eq_ok h
      simp [slotsBehind, ih ho', Outline.addBlock]
  | question r ih =>
    rw [outlineText_question] at h
    obtain ⟨o', ho', rfl⟩ := map_eq_ok h
    have ih := @ih (u ++ '?' :: suffixOf r) o'
    rw [openIn_append_question, Text.size_append] at ih
    have hsuffix : (suffixOf r).count '\x7d' = 0 :=
      List.count_eq_zero.2 fun hmem => by simpa [isMark, isBrace] using isMark_of_mem_suffixOf hmem
    have hcount : ('?' :: r).count '\x7d' = (afterSuffix r).count '\x7d' := by
      rw [List.count_cons_of_ne (by decide), ← suffixOf_append_afterSuffix r, List.count_append,
        hsuffix, Nat.zero_add, suffixOf_append_afterSuffix]
    rw [ih ho', slotsBehind_question, Outline.addSlot, hcount]
  | literal c r hc ih =>
    rw [outlineText_literal hc] at h
    have ih := @ih (u ++ [c]) o
    rw [openIn_append_singleton u (isBrace_of_isMark hc), Text.size_append] at ih
    have hclosing : c ≠ '\x7d' := by
      rintro rfl
      simp [isMark, isBrace] at hc
    simpa [slotsBehind, ne_question_of_isMark hc, hclosing] using ih h

theorem eq_of_outline (h : outline t = .ok o) :
    o = ⟨slotsBehind [] t, t.count '\x7d'⟩ := eq_of_outlineText (u := []) h

theorem arity_of_outline (h : outline t = .ok o) : o.arity = t.count '?' := by
  rw [eq_of_outline h]
  exact length_slotsBehind [] t

/-- Every slot counts for one type. -/
theorem add_counts (o : Outline) :
    o.count .generic + o.count .int + o.count .float + o.count .array + o.count .field =
      o.arity := by
  obtain ⟨slots, blocks⟩ := o
  induction slots with
  | nil => rfl
  | cons s slots ih =>
    simp only [Outline.count, Outline.arity, List.length_cons, List.countP_cons] at ih ⊢
    cases hkind : s.kind <;> simp <;> omega

/-- A template has an outline exactly if its braces are pairs. The outline has a block for each pair
and, in order, a slot for each question mark, with the bytes before it, the type that the next
character makes and whether more braces open before it than close; there are as many slots as the
types have together. Without an outline, the error is that of the first brace with which the braces
cannot be pairs any more, or of the last one if only its closing brace is missing. -/
theorem outline_lists_placeholders (t : Text) :
    ((∃ o, outline t = .ok o) ↔ Alternating t) ∧
    (∀ o, outline t = .ok o →
      o.blocks = t.count '\x7b' ∧ o.arity = t.count '?' ∧
      o.count .generic + o.count .int + o.count .float + o.count .array + o.count .field = o.arity ∧
      ∀ u v, t = u ++ '?' :: v →
        o.slots[u.count '?']? =
          some ⟨Placeholder.before v, u.size, decide (u.count '\x7d' < u.count '\x7b')⟩) ∧
    ∀ err, outline t = .error err ↔
      (∃ u c v, t = u ++ c :: v ∧ AlternatingSoFar u ∧ ¬AlternatingSoFar (u ++ [c]) ∧
        err = if c = '\x7b' then .nesting u.size else .unmatchedClose u.size) ∨
      AlternatingSoFar t ∧ ∃ u v, t = u ++ '\x7b' :: v ∧ (∀ c ∈ v, isBrace c = false) ∧
      err = .unmatchedOpen u.size := by
  refine ⟨by rw [exists_outline_eq_ok_iff, alternating_iff], fun o ho => ?_, fun err => ?_⟩
  · obtain ⟨hfault, hopen⟩ := (exists_outline_eq_ok_iff t).1 ⟨o, ho⟩
    have harity := arity_of_outline ho
    obtain rfl := eq_of_outline ho
    have hcount := count_braces hfault t [] (by simp)
    refine ⟨?_, harity, add_counts _, ?_⟩
    · simpa [hopen] using hcount.symm
    · rintro u v rfl
      have hinside := isSome_openIn_iff hfault rfl
      rw [getElem?_slotsBehind, List.nil_append,
        Bool.eq_iff_iff.2 (hinside.trans decide_eq_true_iff.symm)]
  · rw [← failure?_eq_some_iff, failure?_outline, Option.or_eq_some_iff, ← isFirstFault_iff,
      ← faultless_iff, isFirstFault_braceFault_iff, unclosed_eq_some_iff, alternatingSoFar_iff]
    refine or_congr_right (and_congr_right fun _ => ?_)
    simp only [openIn_eq_some_iff]
    constructor
    · rintro ⟨-, ⟨u, v, rfl, rfl, hv⟩, rfl⟩
      exact ⟨u, v, rfl, hv, rfl⟩
    · rintro ⟨u, v, rfl, hv, rfl⟩
      exact ⟨u.size, ⟨u, v, rfl, rfl, hv⟩, rfl⟩

end SqlTemplate.Template
