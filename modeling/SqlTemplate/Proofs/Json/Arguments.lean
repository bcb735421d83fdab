import Mathlib.Data.List.Permutation
import SqlTemplate.Arguments
import SqlTemplate.Proofs.Json.Reader
import SqlTemplate.Proofs.Template.Plain

/-! Arguments from JSON. If the reader takes no number beyond the doubles, what is read is plain at
every depth. Only an item of the array itself becomes a skip marker, and a build with such
arguments fails for no reason that a calling program alone can give. -/

namespace SqlTemplate

namespace Arguments

/-! ### Skip markers -/

/-- What an item of the array becomes: the skip marker if it is the token and at no other time, and
else what it is as a document. -/
def Becomes (token : Text) (item : Json) (v : Value) : Prop :=
  (v = .skip ↔ item = .string token) ∧ (item ≠ .string token → v = item.toArgument)

theorem toArgument_ne_skip (j : Json) : j.toArgument ≠ .skip := by
  cases j with
  | number n =>
    rw [Json.toArgument, Json.Number.toArgument]
    split <;> simp
  | _ => simp [Json.toArgument]

theorem ofItem_token (token : Text) : ofItem token (.string token) = .skip := if_pos rfl

theorem ofItem_of_ne {token : Text} {j : Json} (h : j ≠ .string token) :
    ofItem token j = j.toArgument := by
  cases j with
  | string s => exact if_neg fun hs => h (by rw [hs])
  | _ => rfl

theorem ofItem_eq_skip_iff {token : Text} {j : Json} :
    ofItem token j = .skip ↔ j = .string token := by
  constructor
  · intro hskip
    by_contra hne
    rw [ofItem_of_ne hne] at hskip
    exact toArgument_ne_skip j hskip
  · rintro rfl
    exact ofItem_token token

theorem becomes_iff {token : Text} {item : Json} {v : Value} :
    Becomes token item v ↔ v = ofItem token item := by
  constructor
  · rintro ⟨hskip, helse⟩
    by_cases hitem : item = .string token
    · rw [hskip.2 hitem, ofItem_eq_skip_iff.2 hitem]
    · rw [helse hitem, ofItem_of_ne hitem]
  · rintro rfl
    exact ⟨ofItem_eq_skip_iff, ofItem_of_ne⟩

theorem ofItem_plain {token : Text} {j : Json} (h : j.toArgument.Plain) :
    ofItem token j = .skip ∨ (ofItem token j).Plain := by
  by_cases ht : j = .string token
  · exact .inl (ofItem_eq_skip_iff.2 ht)
  · rw [ofItem_of_ne ht]
    exact .inr h

variable {F : Formats} {token raw : Text} {values : List Value}

theorem forall₂_becomes_iff {items : List Json} :
    List.Forall₂ (Becomes token) items values ↔ values = items.map (ofItem token) := by
  constructor
  · intro h
    induction h with
    | nil => rfl
    | cons hv _ ih => rw [List.map_cons, ih, becomes_iff.1 hv]
  · rintro rfl
    rw [List.forall₂_map_right_iff, List.forall₂_same]
    exact fun j _ => becomes_iff.2 rfl

theorem read_eq_ok_iff :
    read F token raw = .ok values ↔
      ∃ items, F.json raw = .ok (.array items) ∧ List.Forall₂ (Becomes token) items values := by
  simp only [forall₂_becomes_iff]
  unfold read
  split
  next cause heq => simp [heq]
  next items heq => simp [heq, eq_comm]
  next j hne heq => simpa [heq] using fun items hj => absurd hj (hne items)

/-- Arguments read from JSON are the items of the array one by one, the skip marker where an item is
the token. They hold nothing else without a literal, at no depth, so they make no error of a calling
program. This rests on the reader for numbers alone: it has to refuse those beyond the doubles. -/
theorem values_of_read (hF : F.JsonBounded) (h : read F token raw = .ok values) :
    ∃ items, F.json raw = .ok (.array items) ∧
      List.Forall₂ (Becomes token) items values ∧
      (∀ v ∈ values, v = .skip ∨ v.Plain) ∧
      ∀ e t err, Template.build e t values = .error err → err.kind.isHostOnly = false := by
  obtain ⟨items, hread, hvalues⟩ := read_eq_ok_iff.1 h
  have hitems : ∀ j ∈ items, j.Bounded := Json.bounded_array.1 (hF raw _ hread)
  have hplain : ∀ v ∈ values, v = .skip ∨ v.Plain := by
    intro v hv
    rw [forall₂_becomes_iff.1 hvalues] at hv
    obtain ⟨j, hj, rfl⟩ := List.mem_map.1 hv
    exact ofItem_plain (hitems j hj).plain
  exact ⟨items, hread, hvalues, hplain, fun e t err => Template.not_isHostOnly_of_build hplain⟩

/-- The token in the array, in a list and as a key. -/
theorem values_of_read_of_nested_token :
    Formats.own.JsonBounded ∧
    read .own "-".toList "[\"-\", [\"-\", true], \x7b\"-\": null\x7d]".toList =
      .ok [.skip, .list [.str "-".toList, .bool true], .map [("-".toList, .null)]] ∧
    ∀ e t err,
      Template.build e t
          [.skip, .list [.str "-".toList, .bool true], .map [("-".toList, .null)]] = .error err →
      err.kind.isHostOnly = false := by
  have h : read .own "-".toList "[\"-\", [\"-\", true], \x7b\"-\": null\x7d]".toList =
      .ok [.skip, .list [.str "-".toList, .bool true], .map [("-".toList, .null)]] := by cbv
  obtain ⟨-, -, -, -, hbuild⟩ := values_of_read Formats.own_jsonBounded h
  exact ⟨Formats.own_jsonBounded, h, hbuild⟩

end Arguments

end SqlTemplate
