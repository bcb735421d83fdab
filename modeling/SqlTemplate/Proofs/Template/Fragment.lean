import SqlTemplate.Proofs.Outcome
import SqlTemplate.Template.Fragment

/-! What each placeholder accepts and writes, read back from the text it has written: literals
are put together from those of the items and entries, and each kind of placeholder
writes texts of one form only. -/

namespace SqlTemplate.Template

variable {e : Escaper} {v : Value} {w : Text}

/-! ### Literals -/

theorem mem_itemLiterals {items : List Value} {ts : List Text}
    (h : itemLiterals e items = .ok ts) {t : Text}
    (ht : t ∈ ts) : ∃ v ∈ items, literal e v = .ok t := by
  induction items generalizing ts with
  | nil => cases h; simp at ht
  | cons v vs ih =>
    obtain ⟨w, hw, h⟩ := bind_eq_ok h
    obtain ⟨ws, hws, rfl⟩ := map_eq_ok h
    rcases List.mem_cons.1 ht with rfl | ht
    · exact ⟨v, by simp, hw⟩
    · obtain ⟨v', hv', ht⟩ := ih hws ht
      exact ⟨v', by simp [hv'], ht⟩

theorem mem_entryLiterals {entries : List (Text × Value)} {ts : List Text}
    (h : entryLiterals e entries = .ok ts) {t : Text} (ht : t ∈ ts) :
    ∃ entry ∈ entries, ∃ w, literal e entry.2 = .ok w ∧
    t = e.identifier entry.1 ++ ' ' :: '=' :: ' ' :: w := by
  induction entries generalizing ts with
  | nil => cases h; simp at ht
  | cons entry es ih =>
    obtain ⟨k, v⟩ := entry
    obtain ⟨w, hw, h⟩ := bind_eq_ok h
    obtain ⟨ws, hws, rfl⟩ := map_eq_ok h
    rcases List.mem_cons.1 ht with rfl | ht
    · exact ⟨(k, v), by simp, w, hw, rfl⟩
    · obtain ⟨entry, hentry, ht⟩ := ih hws ht
      exact ⟨entry, by simp [hentry], ht⟩

theorem doubleLiteral_eq_ok {x : Binary64} (h : doubleLiteral x = .ok w) :
    x.isFinite ∧ w = Decimal.doubleText x := by
  unfold doubleLiteral at h
  split at h
  next hx => cases h; exact ⟨hx, rfl⟩
  next => cases h

/-! ### Placeholders -/

theorem fragment_generic (h : fragment e .generic v = .ok w) :
    v.isComposite = false ∧ literal e v = .ok w := by
  cases v <;> first | exact ⟨rfl, h⟩ | cases h

theorem fragment_array (h : fragment e .array v = .ok w) : v.isComposite ∧ literal e v = .ok w := by
  cases v <;> first | exact ⟨rfl, h⟩ | cases h

theorem fragment_field (h : fragment e .field v = .ok w) : fieldNames e v = .ok w := by
  cases v <;> first | exact h | cases h

theorem fragment_int_of_ne_null (hv : v ≠ .null) :
    fragment e .int v =
      if v.containsSkip then .error .skipInComposite else .ok (Decimal.intText v.toInt.toInt) := by
  cases v with
  | null => exact absurd rfl hv
  | _ => rfl

theorem fragment_float_of_ne_null (hv : v ≠ .null) :
    fragment e .float v =
      if v.containsSkip then .error .skipInComposite else doubleLiteral v.toDouble := by
  cases v with
  | null => exact absurd rfl hv
  | _ => rfl

theorem fragment_int (h : fragment e .int v = .ok w) :
    w = "NULL".toList ∨ w = Decimal.intText v.toInt.toInt := by
  by_cases hv : v = .null
  · subst hv
    cases h
    exact .inl rfl
  · rw [fragment_int_of_ne_null hv] at h
    split at h
    next => cases h
    next => cases h; exact .inr rfl

theorem fragment_float (h : fragment e .float v = .ok w) :
    w = "NULL".toList ∨ v.toDouble.isFinite ∧ w = Decimal.doubleText v.toDouble := by
  by_cases hv : v = .null
  · subst hv
    cases h
    exact .inl rfl
  · rw [fragment_float_of_ne_null hv] at h
    split at h
    next => cases h
    next => exact .inr (doubleLiteral_eq_ok h)

/-- No placeholder writes anything for the skip marker. -/
theorem isSkip_eq_false_of_fragment {kind : Placeholder} (h : fragment e kind v = .ok w) :
    v.isSkip = false := by
  cases v
  case skip => cases kind <;> cases h
  all_goals rfl

/-! ### Names -/

/-- The text a value is, if it is one. -/
def nameOf? : Value → Option Text
  | .str s => some s
  | _ => none

theorem mapM_nameOf {items : List Value} {names : List Text} (h : items.mapM nameOf = .ok names) :
    names = items.filterMap nameOf? := by
  induction items generalizing names with
  | nil => cases h; rfl
  | cons v vs ih =>
    rw [List.mapM_cons] at h
    obtain ⟨name, hname, h⟩ := bind_eq_ok h
    obtain ⟨names', hnames, h⟩ := bind_eq_ok h
    cases h
    obtain rfl := ih hnames
    cases v <;> cases hname
    rfl

end SqlTemplate.Template
