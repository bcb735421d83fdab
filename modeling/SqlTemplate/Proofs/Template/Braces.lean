import SqlTemplate.Proofs.Template.Fault

/-! Braces of a template read on their own. They are free of faults, with every block closed,
exactly if they alternate, beginning with one that opens; and then a place is in a block
exactly if more braces open before it than close. -/

namespace SqlTemplate.Template

/-- The braces of a text are pairs of an opening and a closing one. -/
def Alternating (t : Text) : Prop :=
  ∃ n, t.filter isBrace = (List.replicate n ['\x7b', '\x7d']).flatten

theorem pair_append_iff (l : Text) :
    (∃ n, '\x7b' :: '\x7d' :: l = (List.replicate n ['\x7b', '\x7d']).flatten) ↔
      ∃ n, l = (List.replicate n ['\x7b', '\x7d']).flatten := by
  constructor
  · rintro ⟨_ | n, h⟩
    · simp at h
    · exact ⟨n, by simpa [List.replicate_succ] using h⟩
  · rintro ⟨n, rfl⟩
    exact ⟨n + 1, by simp [List.replicate_succ]⟩

theorem not_pairs {l : Text} (h : ∀ r, l ≠ '\x7b' :: '\x7d' :: r) (hn : l ≠ []) (n : Nat) :
    l ≠ (List.replicate n ['\x7b', '\x7d']).flatten := by
  cases n with
  | zero => simpa using hn
  | succ n =>
    rw [List.replicate_succ, List.flatten_cons]
    exact h _

/-- What is left of the braces in the middle of a text, where a block that is open counts
as its brace. -/
theorem alternating_after (t u : Text) :
    (firstFault braceFault u t = none ∧ openIn (u ++ t) = none) ↔
      ∃ n, (if (openIn u).isSome then ['\x7b'] else []) ++ t.filter isBrace =
        (List.replicate n ['\x7b', '\x7d']).flatten := by
  induction t generalizing u with
  | nil =>
    cases h : openIn u with
    | none => simp [firstFault, h]
    | some p => simpa [firstFault, h] using fun n => not_pairs (l := ['\x7b']) (by simp) (by simp) n
  | cons c r ih =>
    have ih := ih (u ++ [c])
    rw [List.append_assoc, List.singleton_append] at ih
    by_cases ho : c = '\x7b'
    · subst ho
      rw [openIn_append_opening] at ih
      cases h : openIn u with
      | none => simpa [firstFault, braceFault, h, isBrace] using ih
      | some p =>
        have hno (n : Nat) :=
          not_pairs (l := '\x7b' :: '\x7b' :: r.filter isBrace) (by simp) (by simp) n
        simpa [firstFault, braceFault, h, isBrace] using hno
    by_cases hc : c = '\x7d'
    · subst hc
      rw [openIn_append_closing] at ih
      cases h : openIn u with
      | none =>
        have hno (n : Nat) := not_pairs (l := '\x7d' :: r.filter isBrace) (by simp) (by simp) n
        simpa [firstFault, braceFault, h, isBrace] using hno
      | some p => simpa [firstFault, braceFault, h, isBrace, pair_append_iff] using ih
    have hbrace := isBrace_eq_false ho hc
    rw [openIn_append_singleton u hbrace] at ih
    have hfault : braceFault u c r = none := by
      unfold braceFault
      split <;> simp_all
    simpa [firstFault, hfault, hbrace] using ih

theorem alternating_iff (t : Text) : Alternating t ↔ Faultless braceFault t ∧ openIn t = none := by
  rw [faultless_iff, Alternating]
  simpa using (alternating_after t []).symm

/-- Where no brace is at fault, as many braces open as close, but for the block that is open. -/
theorem count_braces {t : Text} (h : Faultless braceFault t) (u v : Text) (ht : t = u ++ v) :
    u.count '\x7b' = u.count '\x7d' + if (openIn u).isSome then 1 else 0 := by
  induction u using List.reverseRecOn generalizing v with
  | nil => simp
  | append_singleton u c ih =>
    have hu := ih (c :: v) (by simpa using ht)
    have hc := h u c v (by simpa using ht)
    by_cases ho : c = '\x7b'
    · subst ho
      cases hu' : openIn u <;> simp_all [braceFault]
    by_cases hcl : c = '\x7d'
    · subst hcl
      cases hu' : openIn u <;> simp_all [braceFault]
    rw [openIn_append_singleton u (isBrace_eq_false ho hcl)]
    simpa [ho, hcl] using hu

theorem isSome_openIn_iff {t : Text} (h : Faultless braceFault t) {u v : Text} (ht : t = u ++ v) :
    (openIn u).isSome ↔ u.count '\x7d' < u.count '\x7b' := by
  have hu := count_braces h u v ht
  split at hu <;> simp_all

end SqlTemplate.Template
