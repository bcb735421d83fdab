import SqlTemplate.Proofs.Template.Failure

/-! Question marks and the arguments they get: the argument of a question mark stands in the
list where the mark stands among the question marks. A build succeeds exactly if no
brace and no binding is at fault, the last block is closed and no argument is left. -/

namespace SqlTemplate.Template

/-! ### Question marks in order -/

theorem count_lt_of_question (u v : Text) : u.count '?' < (u ++ '?' :: v).count '?' := by
  simp

/-- Every number below their count is the place of a question mark. -/
theorem exists_question_of_lt {n : Nat} {t : Text} (h : n < t.count '?') :
    ∃ u v, t = u ++ '?' :: v ∧ u.count '?' = n := by
  induction t generalizing n with
  | nil => simp at h
  | cons c r ih =>
    by_cases hc : c = '?'
    · subst hc
      cases n with
      | zero => exact ⟨[], r, rfl, rfl⟩
      | succ n =>
        obtain ⟨u, v, rfl, hu⟩ := ih (n := n) (by simpa using h)
        exact ⟨'?' :: u, v, rfl, by simp [hu]⟩
    · obtain ⟨u, v, rfl, hu⟩ := ih (n := n) (by simpa [hc] using h)
      exact ⟨c :: u, v, rfl, by simp [hc, hu]⟩

/-- A question mark is told from the others by their number before it. -/
theorem question_unique {u v u' v' : Text} (h : u ++ '?' :: v = u' ++ '?' :: v')
    (hc : u.count '?' = u'.count '?') : u = u' ∧ v = v' := by
  induction u generalizing u' with
  | nil =>
    cases u' with
    | nil => simpa using h
    | cons d u' =>
      obtain ⟨rfl, -⟩ := List.cons.inj h
      simp at hc
  | cons c u ih =>
    cases u' with
    | nil =>
      obtain ⟨rfl, -⟩ := List.cons.inj h
      simp at hc
    | cons d u' =>
      obtain ⟨rfl, htail⟩ := List.cons.inj h
      obtain ⟨rfl, rfl⟩ := ih htail (by simpa [List.count_cons] using hc)
      exact ⟨rfl, rfl⟩

/-- The placeholders of a text, in order. -/
def kinds : Text → List Placeholder
  | [] => []
  | c :: r => if c = '?' then Placeholder.before r :: kinds r else kinds r

theorem length_kinds (t : Text) : (kinds t).length = t.count '?' := by
  induction t with
  | nil => rfl
  | cons c r ih =>
    by_cases hc : c = '?'
    · simp [kinds, hc, ih]
    · simp [kinds, hc, ih]

theorem getElem?_kinds (u v : Text) :
    (kinds (u ++ '?' :: v))[u.count '?']? = some (Placeholder.before v) := by
  induction u with
  | nil => simp [kinds]
  | cons c u ih =>
    by_cases hc : c = '?'
    · simpa [kinds, hc] using ih
    · simpa [kinds, hc] using ih

/-! ### Bound arguments -/

/-- The question mark between two parts of a template gets this argument. -/
def Binds (t : Text) (args : List Value) (before after : Text) (arg : Value) : Prop :=
  t = before ++ '?' :: after ∧ args[before.count '?']? = some arg

/-- A placeholder and an argument at the same place of their lists are bound to each other. -/
theorem binds_of_getElem? {t : Text} {args : List Value} {i : Nat}
    {kind : Placeholder} {arg : Value} (hk : (kinds t)[i]? = some kind) (ha : args[i]? = some arg) :
    ∃ u v, Binds t args u v arg ∧ Placeholder.before v = kind := by
  have hi : i < t.count '?' := by
    rw [← length_kinds]
    exact (List.getElem?_eq_some_iff.1 hk).1
  obtain ⟨u, v, rfl, rfl⟩ := exists_question_of_lt hi
  rw [getElem?_kinds] at hk
  exact ⟨u, v, ⟨rfl, ha⟩, Option.some.inj hk⟩

/-- What holds of each placeholder and its argument holds of every binding. -/
theorem binds_forall {t : Text} {args : List Value} {p : Placeholder → Value → Prop}
    (h : ∀ x ∈ (kinds t).zip args, p x.1 x.2) {u v : Text} {arg : Value}
    (hb : Binds t args u v arg) : p (Placeholder.before v) arg := by
  obtain ⟨rfl, ha⟩ := hb
  refine h (Placeholder.before v, arg) (List.mem_iff_getElem?.2 ⟨u.count '?', ?_⟩)
  rw [List.getElem?_zip_eq_some]
  exact ⟨getElem?_kinds u v, ha⟩

/-! ### Builds without a fault -/

variable {e : Escaper} {args : List Value} {t : Text}

theorem bindingFault_eq_none_iff (u v : Text) :
    bindingFault e args u v = none ↔ ∃ arg, args[u.count '?']? = some arg ∧
      (arg.isSkip → (openIn u).isSome) ∧
      (arg.isSkip = false → ∃ w, fragment e (Placeholder.before v) arg = .ok w) := by
  unfold bindingFault
  cases args[u.count '?']? with
  | none => simp
  | some arg => cases hs : arg.isSkip <;> simp [failure?_eq_none_iff, hs, Option.isSome_iff_ne_none]

theorem braceFault_eq_none_of_fault {u v : Text} {c : Char} (h : fault e args u c v = none) :
    braceFault u c v = none := by
  by_cases hq : c = '?'
  · subst hq
    rfl
  · rwa [fault, if_neg hq] at h

theorem faultless_fault_iff :
    Faultless (fault e args) t ↔
      Faultless braceFault t ∧ ∀ u v, t = u ++ '?' :: v → bindingFault e args u v = none := by
  constructor
  · intro h
    exact ⟨fun u c v ht => braceFault_eq_none_of_fault (h u c v ht), fun u v ht => h u '?' v ht⟩
  · rintro ⟨hbrace, hbind⟩ u c v ht
    by_cases hq : c = '?'
    · subst hq
      exact hbind u v ht
    · rw [fault, if_neg hq]
      exact hbrace u c v ht

/-- Without a fault every question mark has its argument. -/
theorem count_le_of_faultless (h : Faultless (fault e args) t) : t.count '?' ≤ args.length := by
  by_contra hlt
  obtain ⟨u, v, ht, hu⟩ := exists_question_of_lt (Nat.lt_of_not_le hlt)
  obtain ⟨arg, harg, -⟩ := (bindingFault_eq_none_iff u v).1 ((faultless_fault_iff.1 h).2 u v ht)
  rw [hu] at harg
  simp at harg

theorem exists_build_eq_ok_iff (e : Escaper) (t : Text) (args : List Value) :
    (∃ s, build e t args = .ok s) ↔
      Faultless (fault e args) t ∧ openIn t = none ∧ args.length = t.count '?' := by
  rw [← failure?_eq_none_iff, failure?_build, Option.or_eq_none_iff, Option.or_eq_none_iff,
    ← faultless_iff, unclosed_eq_none_iff, surplus_eq_none_iff]
  constructor
  · rintro ⟨h, ho, hle⟩
    exact ⟨h, ho, Nat.le_antisymm hle (count_le_of_faultless h)⟩
  · rintro ⟨h, ho, heq⟩
    exact ⟨h, ho, Nat.le_of_eq heq⟩

theorem exists_outline_eq_ok_iff (t : Text) :
    (∃ o, outline t = .ok o) ↔ Faultless braceFault t ∧ openIn t = none := by
  rw [← failure?_eq_none_iff, failure?_outline, Option.or_eq_none_iff, ← faultless_iff,
    unclosed_eq_none_iff]

end SqlTemplate.Template
