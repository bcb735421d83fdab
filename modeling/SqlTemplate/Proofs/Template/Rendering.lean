import SqlTemplate.Proofs.Template.Binding
import SqlTemplate.Proofs.Template.Braces
import SqlTemplate.Proofs.Template.Pieces

/-! When a build succeeds and what it returns. It succeeds exactly if the braces alternate, each
question mark gets one argument, skip markers stand in blocks only, and every other
argument is taken by its placeholder; the result is then the text of the pieces. -/

namespace SqlTemplate.Template

/-- More blocks are opened in a text than closed. -/
def EndsInBlock (before : Text) : Prop := before.count '\x7d' < before.count '\x7b'

variable {e : Escaper} {t : Text} {args : List Value}

theorem exists_binds (hl : args.length = t.count '?') {u v : Text} (ht : t = u ++ '?' :: v) :
    ∃ arg, Binds t args u v arg := by
  have hlt : u.count '?' < args.length := by
    rw [hl, ht]
    exact count_lt_of_question u v
  exact ⟨args[u.count '?'], ht, List.getElem?_eq_getElem hlt⟩

theorem bindingFaults_eq_none_iff (hbrace : Faultless braceFault t)
    (hl : args.length = t.count '?') :
    (∀ u v, t = u ++ '?' :: v → bindingFault e args u v = none) ↔
      (∀ u v, Binds t args u v .skip → EndsInBlock u) ∧
      ∀ u v arg, Binds t args u v arg → arg.isSkip = false →
      ∃ w, fragment e (Placeholder.before v) arg = .ok w := by
  constructor
  · intro h
    refine ⟨fun u v hb => ?_, fun u v arg hb hs => ?_⟩
    · obtain ⟨arg, harg, hskip, -⟩ := (bindingFault_eq_none_iff u v).1 (h u v hb.1)
      obtain rfl := Option.some.inj (harg.symm.trans hb.2)
      exact (isSome_openIn_iff hbrace hb.1).1 (hskip rfl)
    · obtain ⟨arg', harg, -, hok⟩ := (bindingFault_eq_none_iff u v).1 (h u v hb.1)
      obtain rfl := Option.some.inj (harg.symm.trans hb.2)
      exact hok hs
  · rintro ⟨hskip, hok⟩ u v ht
    obtain ⟨arg, hb⟩ := exists_binds hl ht
    refine (bindingFault_eq_none_iff u v).2 ⟨arg, hb.2, fun hs => ?_, hok u v arg hb⟩
    obtain rfl := Value.eq_skip_of_isSkip hs
    exact (isSome_openIn_iff hbrace ht).2 (hskip u v hb)

/-- A build succeeds exactly if the braces of the template alternate, there are as many arguments
as question marks, every skip marker is bound inside a block, and every other argument is taken
by its placeholder, in a block that is left out as elsewhere. What it returns is the text of the
pieces: the characters of the template and what the arguments write, without the blocks that got
a skip marker. -/
theorem build_eq_ok_iff (e : Escaper) (t : Text) (args : List Value) (s : Text) :
    build e t args = .ok s ↔
      Alternating t ∧ args.length = t.count '?' ∧
      (∀ before after, Binds t args before after .skip → EndsInBlock before) ∧
      (∀ before after arg, Binds t args before after arg → arg.isSkip = false →
        ∃ w, fragment e (Placeholder.before after) arg = .ok w) ∧
      s = written (pieces e t args) := by
  have hok : (∃ s, build e t args = .ok s) ↔
      Alternating t ∧ args.length = t.count '?' ∧
      (∀ before after, Binds t args before after .skip → EndsInBlock before) ∧
      ∀ before after arg, Binds t args before after arg → arg.isSkip = false →
        ∃ w, fragment e (Placeholder.before after) arg = .ok w := by
    rw [exists_build_eq_ok_iff, faultless_fault_iff, alternating_iff]
    constructor
    · rintro ⟨⟨hbrace, hbind⟩, hopen, hl⟩
      exact ⟨⟨hbrace, hopen⟩, hl, (bindingFaults_eq_none_iff hbrace hl).1 hbind⟩
    · rintro ⟨⟨hbrace, hopen⟩, hl, hbind⟩
      exact ⟨⟨hbrace, (bindingFaults_eq_none_iff hbrace hl).2 hbind⟩, hopen, hl⟩
  constructor
  · intro h
    obtain ⟨halt, hl, hskip, hbound⟩ := hok.1 ⟨s, h⟩
    exact ⟨halt, hl, hskip, hbound, eq_written_of_build h⟩
  · rintro ⟨halt, hl, hskip, hbound, rfl⟩
    obtain ⟨s, hs⟩ := hok.2 ⟨halt, hl, hskip, hbound⟩
    rw [hs, eq_written_of_build hs]

end SqlTemplate.Template
