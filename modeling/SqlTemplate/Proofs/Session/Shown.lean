import SqlTemplate.Session
import SqlTemplate.Proofs.Text.Boundary

/-! SQL as events show it. A limit is one on bytes, but what is shown under it is a text: SQL
that is too long is cut between characters, as late as the limit allows, and three dots tell
of the cut. -/

namespace SqlTemplate

/-- What an event shows of SQL under a limit, if there is one: SQL that takes more bytes is shown by
its longest beginning that fits and dots behind it. -/
inductive Shows (sql : Text) : Option Nat → Text → Prop
  | unlimited : Shows sql none sql
  | whole {limit : Nat} : sql.encode.size ≤ limit → Shows sql (some limit) sql
  | cut {limit : Nat} {start : Text} : limit < sql.encode.size → Text.LongestFit limit sql start →
    Shows sql (some limit) (start ++ ['.', '.', '.'])

variable {settings : Settings} {sql : Text} {limit : Nat}

theorem shows_shownSql (settings : Settings) (sql : Text) :
    Shows sql settings.maxSqlLength (shownSql settings sql) := by
  unfold shownSql
  split
  next limit hlimit =>
    rw [hlimit, ← Text.size_encode]
    split
    next hover => exact .cut hover (Text.longestFit_clip limit sql)
    next hfits => exact .whole (by omega)
  next hnone =>
    rw [hnone]
    exact .unlimited

theorem Shows.unique {limit : Option Nat} {a b : Text} (ha : Shows sql limit a)
    (hb : Shows sql limit b) : a = b := by
  cases ha with
  | unlimited => cases hb; rfl
  | whole hfits =>
    cases hb with
    | whole _ => rfl
    | cut hover _ => omega
  | cut hover hstart =>
    cases hb with
    | whole hfits => omega
    | cut _ hstart' => rw [hstart.unique hstart']

theorem shownSql_eq_iff {shown : Text} :
    shownSql settings sql = shown ↔ Shows sql settings.maxSqlLength shown :=
  ⟨fun h => h ▸ shows_shownSql settings sql, (shows_shownSql settings sql).unique⟩

/-- Only the dots can go beyond the limit. -/
theorem Shows.size_le {shown : Text} (h : Shows sql (some limit) shown) :
    shown.encode.size ≤ limit + 3 := by
  cases h with
  | whole hfits => omega
  | @cut _ start _ hstart =>
    have hstart : start.encode.size ≤ limit := hstart.greatest.1.2
    have hdots : (Text.encode ['.', '.', '.']).size = 3 := rfl
    rw [Text.encode_append, ByteArray.size_append, hdots]
    omega

/-- Clipped SQL is the longest beginning that ends between characters and fits the limit. Going
back from the limit byte by byte finds its end, so the bytes before this place are a text; if
something is cut off, the place is at most three bytes before the limit. Events show SQL whole if
there is no limit or it fits, and else this beginning and dots, which is at most three bytes more
than the limit. -/
theorem shownSql_up_to_boundary (sql : Text) :
    (∀ limit, (∀ start, sql.clip limit = start ↔ Text.LongestFit limit sql start) ∧
      Text.decode? (sql.encode.extract 0 (Text.lastBoundary sql.encode limit)) =
        some (sql.clip limit) ∧
      (limit < sql.encode.size → limit ≤ (sql.clip limit).encode.size + 3)) ∧
    ∀ settings : Settings,
      (∀ shown, shownSql settings sql = shown ↔ Shows sql settings.maxSqlLength shown) ∧
      ∀ limit, settings.maxSqlLength = some limit →
      (shownSql settings sql).encode.size ≤ limit + 3 := by
  constructor
  · intro limit
    have hfit := Text.longestFit_clip limit sql
    refine ⟨fun start => Text.longestFit_iff.symm, ?_, fun hover => ?_⟩
    · rw [hfit.lastBoundary_eq, ← hfit.bytes, Text.decode?_encode]
    · rw [Text.size_encode] at hover ⊢
      exact Text.limit_le_size_clip hover
  · intro settings
    refine ⟨fun shown => shownSql_eq_iff, fun limit hlimit => ?_⟩
    have hshows := shows_shownSql settings sql
    rw [hlimit] at hshows
    exact hshows.size_le

/-- A limit before the last byte of a character of four: all of this character goes. -/
theorem shownSql_up_to_boundary_of_cut_character :
    4 < (Text.encode "a😀".toList).size ∧ 4 ≤ (Text.encode (Text.clip 4 "a😀".toList)).size + 3 ∧
      shownSql ⟨true, some 4, .debug⟩ "a😀".toList = "a...".toList ∧
      (Text.encode (shownSql ⟨true, some 4, .debug⟩ "a😀".toList)).size ≤ 4 + 3 := by
  have hover : 4 < (Text.encode "a😀".toList).size := by rw [Text.size_encode]; decide
  obtain ⟨hclip, hshown⟩ := shownSql_up_to_boundary "a😀".toList
  exact ⟨hover, (hclip 4).2.2 hover, by decide, (hshown ⟨true, some 4, .debug⟩).2 4 rfl⟩

end SqlTemplate
