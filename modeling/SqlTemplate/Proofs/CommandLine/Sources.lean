import SqlTemplate.CommandLine.Surroundings
import SqlTemplate.Proofs.Outcome

/-! The texts that sources supply. A file and the standard input hold the bytes of a text, and what
they supply is this text without the line end at its end; a text on the command line is
supplied as it is. -/

namespace SqlTemplate.CommandLine

/-! ### Line ends -/

/-- The second text is the first without the line end at its end, if it has one. -/
inductive WithoutLineEnd : Text → Text → Prop
  | crlf (t : Text) : WithoutLineEnd (t ++ ['\r', '\n']) t
  | lf {t : Text} : t.getLast? ≠ some '\r' → WithoutLineEnd (t ++ ['\n']) t
  | none {t : Text} : t.getLast? ≠ some '\n' → WithoutLineEnd t t

theorem dropLineEnd_crlf (t : Text) : dropLineEnd (t ++ ['\r', '\n']) = t := by
  simp [dropLineEnd]

theorem dropLineEnd_lf {t : Text} (h : t.getLast? ≠ some '\r') : dropLineEnd (t ++ ['\n']) = t := by
  rw [dropLineEnd, List.reverse_append, List.reverse_singleton, List.singleton_append]
  split
  next r hr =>
    have ht : t.reverse = '\r' :: r := (List.cons.inj hr).2
    rw [List.getLast?_eq_head?_reverse, ht] at h
    exact absurd rfl h
  next r _ hr =>
    rw [← (List.cons.inj hr).2, List.reverse_reverse]
  next _ hr => exact absurd rfl (hr t.reverse)

theorem dropLineEnd_of_ne {t : Text} (h : t.getLast? ≠ some '\n') : dropLineEnd t = t := by
  rw [List.getLast?_eq_head?_reverse] at h
  unfold dropLineEnd
  split
  next hr => exact absurd (by rw [hr]; rfl) h
  next hr => exact absurd (by rw [hr]; rfl) h
  next => rfl

theorem dropLineEnd_eq_iff {t u : Text} : dropLineEnd t = u ↔ WithoutLineEnd t u := by
  constructor
  · rintro rfl
    by_cases hlf : t.getLast? = some '\n'
    · obtain ⟨r, rfl⟩ := List.getLast?_eq_some_iff.1 hlf
      by_cases hcr : r.getLast? = some '\r'
      · obtain ⟨q, rfl⟩ := List.getLast?_eq_some_iff.1 hcr
        rw [List.append_assoc, List.singleton_append, dropLineEnd_crlf]
        exact .crlf q
      · rw [dropLineEnd_lf hcr]
        exact .lf hcr
    · rw [dropLineEnd_of_ne hlf]
      exact .none hlf
  · intro h
    cases h with
    | crlf => exact dropLineEnd_crlf u
    | lf hcr => exact dropLineEnd_lf hcr
    | none hlf => exact dropLineEnd_of_ne hlf

/-! ### Sources -/

namespace Surroundings

/-- A source supplies a text: itself, or what the bytes of a file or of the standard input encode,
without the line end at its end. -/
inductive Supplies (w : Surroundings) : Source → Text → Prop
  | inline (t : Text) : Supplies w (.inline t) t
  | file {path t u : Text} :
    w.file path = .ok t.encode → WithoutLineEnd t u → Supplies w (.file path) u
  | stdin {t u : Text} : w.stdin = .ok t.encode → WithoutLineEnd t u → Supplies w .stdin u

variable {w : Surroundings}

theorem bind_textOf_eq_ok_iff {x : Except ReadFault ByteArray} {t : Text} :
    x.bind textOf = .ok t ↔ x = .ok t.encode := by
  cases x with
  | error fault => simp [Except.bind]
  | ok bytes =>
    rw [Except.ok.injEq, ← Text.decode?_eq_some_iff]
    show textOf bytes = .ok t ↔ _
    unfold textOf
    cases Text.decode? bytes <;> simp

theorem fileText_eq_ok_iff {path t : Text} : w.fileText path = .ok t ↔ w.file path = .ok t.encode :=
  bind_textOf_eq_ok_iff

theorem map_dropLineEnd_eq_ok_iff {x : Except ReadFault ByteArray} {u : Text} :
    (x.bind textOf).map dropLineEnd = .ok u ↔ ∃ t, x = .ok t.encode ∧ WithoutLineEnd t u := by
  constructor
  · intro h
    obtain ⟨t, ht, hu⟩ := map_eq_ok h
    exact ⟨t, bind_textOf_eq_ok_iff.1 ht, dropLineEnd_eq_iff.1 hu⟩
  · rintro ⟨t, ht, hu⟩
    rw [bind_textOf_eq_ok_iff.2 ht, ← dropLineEnd_eq_iff.2 hu]
    rfl

theorem document_eq_ok_iff {s : Source} {u : Text} : w.document s = .ok u ↔ w.Supplies s u := by
  constructor
  · intro h
    cases s with
    | inline t =>
      cases h
      exact .inline _
    | file path =>
      obtain ⟨t, ht, hu⟩ := map_dropLineEnd_eq_ok_iff.1 h
      exact .file ht hu
    | stdin =>
      obtain ⟨t, ht, hu⟩ := map_dropLineEnd_eq_ok_iff.1 h
      exact .stdin ht hu
  · intro h
    cases h with
    | inline => rfl
    | file ht hu => exact map_dropLineEnd_eq_ok_iff.2 ⟨_, ht, hu⟩
    | stdin ht hu => exact map_dropLineEnd_eq_ok_iff.2 ⟨_, ht, hu⟩

end Surroundings

end SqlTemplate.CommandLine
