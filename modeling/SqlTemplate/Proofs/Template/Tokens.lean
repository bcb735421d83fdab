import Mathlib.Data.List.Chain
import SqlTemplate.Proofs.Template.Concatenation

/-! Templates and lists of tokens. The texts of the tokens of a template make up the template again,
and among the lists of tokens with these texts the scan finds the one in which no literal
text is broken in two and no question mark stands apart from its letter. There is only
one, so it is found from the texts alone. -/

namespace SqlTemplate.Template

/-- The text that tokens stand for. -/
def sources (ts : List Token) : Text := ts.flatMap Token.source

/-- Literal text is not empty and holds no mark. -/
def Token.Proper : Token → Prop
  | .literal run => run ≠ [] ∧ ∀ c ∈ run, isMark c = false
  | _ => True

/-- Whether a token can stand in front of another without being read together with it. -/
def Token.Apart : Token → Token → Prop
  | .literal _, .literal _ => False
  | .placeholder kind, .literal run => kind = .generic → ∀ c ∈ run.head?, c ∉ ['d', 'f', 'a', '#']
  | _, _ => True

/-- Lists of tokens that can be told from their texts. -/
structure Canonical (ts : List Token) : Prop where
  proper : ∀ t ∈ ts, t.Proper
  apart : ts.IsChain Token.Apart

variable {ts : List Token} {t : Token} {c : Char} {r run : Text}

@[simp] theorem sources_nil : sources [] = [] := rfl

@[simp] theorem sources_cons (t : Token) (ts : List Token) :
    sources (t :: ts) = t.source ++ sources ts :=
  List.flatMap_cons

theorem canonical_nil : Canonical [] := ⟨by simp, .nil⟩

theorem canonical_cons :
    Canonical (t :: ts) ↔ t.Proper ∧ (∀ u ∈ ts.head?, t.Apart u) ∧ Canonical ts := by
  constructor
  · rintro ⟨hproper, hapart⟩
    obtain ⟨ht, hts⟩ := List.forall_mem_cons.1 hproper
    obtain ⟨hhead, htail⟩ := List.isChain_cons.1 hapart
    exact ⟨ht, hhead, hts, htail⟩
  · rintro ⟨ht, hhead, hts⟩
    exact ⟨List.forall_mem_cons.2 ⟨ht, hts.proper⟩, List.isChain_cons.2 ⟨hhead, hts.apart⟩⟩

/-- Only literal text is ever read together with what stands before it. -/
theorem Token.apart_of_ne_literal {u : Token} (h : ∀ run, u ≠ .literal run) (t : Token) :
    t.Apart u := by
  cases u with
  | literal run => exact absurd rfl (h run)
  | _ => cases t <;> trivial

theorem afterSuffix_eq_self (h : suffixOf r = []) : afterSuffix r = r := by
  simpa [h] using suffixOf_append_afterSuffix r

/-! ### From a template to its tokens -/

theorem sources_prependLiteral (c : Char) (ts : List Token) :
    sources (prependLiteral c ts) = c :: sources ts := by
  rcases ts with _ | ⟨t, ts⟩
  · rfl
  · cases t <;> rfl

/-- Nothing of a template is lost. -/
theorem sources_tokens (r : Text) : sources (tokens r) = r := by
  induction r using scanInduction with
  | nil => rfl
  | opening r ih => rw [tokens_opening, sources_cons, ih]; rfl
  | closing r ih => rw [tokens_closing, sources_cons, ih]; rfl
  | question r ih =>
    rw [tokens_question, sources_cons, ih, Token.source, source_before, List.cons_append,
      suffixOf_append_afterSuffix]
  | literal c r hc ih => rw [tokens_literal hc, sources_prependLiteral, ih]

theorem canonical_prependLiteral (hc : isMark c = false) (h : Canonical ts) :
    Canonical (prependLiteral c ts) := by
  rcases ts with _ | ⟨t, ts⟩
  · exact canonical_cons.2 ⟨⟨by simp, by simpa using hc⟩, by simp, canonical_nil⟩
  cases t with
  | literal run =>
    obtain ⟨⟨-, hrun⟩, hhead, hts⟩ := canonical_cons.1 h
    -- The longer run stands apart from what the shorter one stood apart from.
    refine canonical_cons.2 ⟨⟨by simp, List.forall_mem_cons.2 ⟨hc, hrun⟩⟩, fun u hu => ?_, hts⟩
    refine Token.apart_of_ne_literal ?_ _
    rintro run' rfl
    exact hhead _ hu
  | _ =>
    refine canonical_cons.2 ⟨⟨by simp, by simpa using hc⟩, fun u hu => ?_, h⟩
    cases hu
    trivial

/-- Literal text behind a question mark without a type letter does not begin with one. -/
theorem apart_question {u : Token} (hcanonical : Canonical (tokens (afterSuffix r)))
    (hu : u ∈ (tokens (afterSuffix r)).head?) :
    (Token.placeholder (Placeholder.before r)).Apart u := by
  cases u with
  | literal run =>
    obtain ⟨ts, hts⟩ := List.head?_eq_some_iff.1 hu
    have htext : run ++ sources ts = afterSuffix r := by
      rw [← sources_tokens (afterSuffix r), hts]; rfl
    obtain ⟨⟨hne, -⟩, -⟩ := canonical_cons.1 (hts ▸ hcanonical)
    obtain ⟨c, run, rfl⟩ := List.exists_cons_of_ne_nil hne
    intro hgeneric x hx hletter
    obtain rfl := Option.some.inj hx
    have hsuffix : suffixOf r = [] := by
      simpa [hgeneric, Placeholder.source] using source_before r
    rw [← afterSuffix_eq_self hsuffix, ← htext] at hsuffix
    simp [suffixOf, isSome_ofSuffix?_iff.2 hletter] at hsuffix
  | _ => exact Token.apart_of_ne_literal (by rintro run ⟨⟩) _

theorem canonical_tokens (r : Text) : Canonical (tokens r) := by
  induction r using scanInduction with
  | nil => exact canonical_nil
  | opening r ih =>
    rw [tokens_opening]
    exact canonical_cons.2 ⟨trivial, fun u _ => by cases u <;> trivial, ih⟩
  | closing r ih =>
    rw [tokens_closing]
    exact canonical_cons.2 ⟨trivial, fun u _ => by cases u <;> trivial, ih⟩
  | question r ih =>
    rw [tokens_question]
    exact canonical_cons.2 ⟨trivial, fun u hu => apart_question ih hu, ih⟩
  | literal c r hc ih =>
    rw [tokens_literal hc]
    exact canonical_prependLiteral hc ih

/-! ### From tokens to a template -/

/-- Literal text in front of something else is one token. -/
theorem tokens_run (hne : run ≠ []) (hrun : ∀ c ∈ run, isMark c = false)
    (hr : ∀ run', .literal run' ∉ (tokens r).head?) :
    tokens (run ++ r) = .literal run :: tokens r := by
  induction run with
  | nil => exact absurd rfl hne
  | cons c run ih =>
    obtain ⟨hc, hrun⟩ := List.forall_mem_cons.1 hrun
    rw [List.cons_append, tokens_literal hc]
    cases run with
    | nil =>
      rw [List.nil_append]
      rcases hts : tokens r with _ | ⟨t, ts⟩
      · rfl
      · cases t with
        | literal run' => exact absurd (by simp [hts]) (hr run')
        | _ => rfl
    | cons d run => rw [ih (List.cons_ne_nil d run) hrun]; rfl

/-- A placeholder keeps to itself in front of a text unless a letter changes its type. -/
theorem tokens_placeholder {kind : Placeholder} (h : kind = .generic → suffixOf r = []) :
    tokens (kind.source ++ r) = .placeholder kind :: tokens r := by
  cases kind with
  | generic =>
    have hsuffix := h rfl
    have hbefore : Placeholder.before r = .generic :=
      Placeholder.source_injective (by rw [source_before, hsuffix]; rfl)
    rw [Placeholder.source, List.singleton_append, tokens_question, hbefore,
      afterSuffix_eq_self hsuffix]
  | _ => rfl

theorem suffixOf_sources (hapart : ∀ u ∈ ts.head?, (Token.placeholder .generic).Apart u)
    (h : Canonical ts) : suffixOf (sources ts) = [] := by
  refine suffixOf_eq_nil_of_not_glues (s := ['?']) ?_ rfl
  rintro ⟨-, c, hc, hletter⟩
  rcases ts with _ | ⟨t, ts⟩
  · cases hc
  cases t with
  | literal run =>
    obtain ⟨⟨hne, -⟩, -⟩ := canonical_cons.1 h
    obtain ⟨d, run, rfl⟩ := List.exists_cons_of_ne_nil hne
    exact hapart _ rfl rfl c hc hletter
  | placeholder kind =>
    obtain rfl : '?' = c := by cases kind <;> exact Option.some.inj hc
    simp at hletter
  | _ =>
    cases hc
    simp at hletter

/-- Tokens that can be told from their texts are found again. -/
theorem tokens_sources (h : Canonical ts) : tokens (sources ts) = ts := by
  induction ts with
  | nil => rfl
  | cons t ts ih =>
    obtain ⟨hproper, hapart, hts⟩ := canonical_cons.1 h
    have ih := ih hts
    rw [sources_cons]
    cases t with
    | literal run =>
      refine (tokens_run hproper.1 hproper.2 ?_).trans (by rw [ih])
      intro run' hrun'
      rw [ih] at hrun'
      exact hapart _ hrun'
    | openBlock => exact congrArg (Token.openBlock :: ·) ih
    | closeBlock => exact congrArg (Token.closeBlock :: ·) ih
    | placeholder kind =>
      refine (tokens_placeholder ?_).trans (by rw [ih])
      rintro rfl
      exact suffixOf_sources hapart hts

theorem tokens_eq_iff : tokens r = ts ↔ sources ts = r ∧ Canonical ts := by
  constructor
  · rintro rfl
    exact ⟨sources_tokens r, canonical_tokens r⟩
  · rintro ⟨rfl, h⟩
    exact tokens_sources h

/-! ### Positions -/

theorem map_snd_place (p : Nat) (ts : List Token) : (place p ts).map Prod.snd = ts := by
  induction ts generalizing p with
  | nil => rfl
  | cons t ts ih => rw [place, List.map_cons, ih]

/-- Every token is placed behind the texts of those before it, and the next one at its end. -/
theorem place_eq_append {p q : Nat} {before after : List (Nat × Token)}
    (h : place p ts = before ++ (q, t) :: after) :
    q = p + (sources (before.map Prod.snd)).size ∧
    after = place (q + t.source.size) (after.map Prod.snd) := by
  induction before generalizing p ts with
  | nil =>
    cases ts with
    | nil => cases h
    | cons u ts =>
      obtain ⟨hhead, rfl⟩ := List.cons.inj h
      cases hhead
      exact ⟨rfl, by rw [map_snd_place]⟩
  | cons x before ih =>
    cases ts with
    | nil => cases h
    | cons u ts =>
      obtain ⟨rfl, htail⟩ := List.cons.inj h
      obtain ⟨hq, hafter⟩ := ih htail
      refine ⟨?_, hafter⟩
      rw [hq, List.map_cons, sources_cons, Text.size_append, Nat.add_assoc]

theorem map_snd_scan (r : Text) : (scan r).map Prod.snd = tokens r := map_snd_place 0 (tokens r)

/-- A token parts its template into the texts before it, its own and those behind it. -/
theorem eq_sources_of_scan {before after : List (Nat × Token)} {p : Nat}
    (h : scan r = before ++ (p, t) :: after) :
    r = sources (before.map Prod.snd) ++ (t.source ++ sources (after.map Prod.snd)) := by
  calc r = sources ((scan r).map Prod.snd) := by rw [map_snd_scan, sources_tokens]
    _ = _ := by rw [h]; simp [sources]

/-- The tokens of a template are those tokens that can be told from their texts and whose
texts make up the template. Each is placed behind the bytes of the texts before it. So it
begins and ends between characters, the next one begins where it ends, and the last one ends
where the template does. -/
theorem scan_eq_iff_canonical (r : Text) :
    (∀ ts, (scan r).map Prod.snd = ts ↔ sources ts = r ∧ Canonical ts) ∧
    ∀ before p t after, scan r = before ++ (p, t) :: after →
      p = (sources (before.map Prod.snd)).size ∧
      Text.fromByte? p r = some (t.source ++ sources (after.map Prod.snd)) ∧
      Text.fromByte? (p + t.source.size) r = some (sources (after.map Prod.snd)) ∧
      p + t.source.size = (after.head?.map Prod.fst).getD r.size := by
  refine ⟨fun ts => by rw [map_snd_scan, tokens_eq_iff], fun before p t after h => ?_⟩
  obtain ⟨hp, hafter⟩ := place_eq_append h
  rw [Nat.zero_add] at hp
  have htext := eq_sources_of_scan h
  have hend : p + t.source.size = (sources (before.map Prod.snd) ++ t.source).size := by
    rw [hp, Text.size_append]
  refine ⟨hp, ?_, ?_, ?_⟩
  · rw [hp]
    conv_lhs => rw [htext]
    exact Text.fromByte?_append _ _
  · rw [hend]
    conv_lhs => rw [htext, ← List.append_assoc]
    exact Text.fromByte?_append _ _
  · cases hts : after.map Prod.snd with
    | nil =>
      rw [List.map_eq_nil_iff] at hts
      subst hts
      rw [hend, htext]
      simp
    | cons u us =>
      rw [hafter, hts]
      rfl

end SqlTemplate.Template
