import SqlTemplate.Proofs.CommandLine.Render
import SqlTemplate.Proofs.CommandLine.Settings
import SqlTemplate.Proofs.CommandLine.Spelling
import SqlTemplate.Proofs.Json.Arguments

/-! The skip token in force. The default one is not empty and neither is that of a
configuration file, but the last one on the command line, which goes before them, can be. Then
every empty text among the arguments becomes a skip marker; at all other times empty texts are
bound as what they are. -/

namespace SqlTemplate.CommandLine

open ConfigFile (Valid)

/-! ### The token on the command line -/

/-- The value that the last option with a flag gives it. -/
def lastValue? (f : Flag) : List (Flag × Text) → Option Text
  | [] => none
  | g :: gs => (lastValue? f gs).or (if g.1 = f then some g.2 else none)

variable {o o' : Options} {g : Flag × Text} {gs : List (Flag × Text)} {words : List Text}

theorem skipToken_set (h : o.set g.2 g.1 = .ok o') :
    o'.skipToken = (if g.1 = .skipToken then some g.2 else none).or o.skipToken := by
  rw [Options.set_eq] at h
  obtain ⟨c, hread, hput⟩ := bind_eq_ok h
  obtain ⟨-, rfl⟩ := Options.put_eq_ok_iff.1 hput
  obtain ⟨f, v⟩ := g
  cases f with
  | dialect =>
    simp only [Setting.read] at hread
    split at hread <;> cases hread
    rfl
  | _ =>
    cases hread
    rfl

theorem skipToken_setAll (h : o.setAll gs = .ok o') :
    o'.skipToken = (lastValue? .skipToken gs).or o.skipToken := by
  induction gs generalizing o with
  | nil =>
    cases h
    rfl
  | cons g gs ih =>
    obtain ⟨o₁, h₁, h⟩ := bind_eq_ok h
    rw [ih h, skipToken_set h₁, lastValue?, Option.or_assoc]

/-! ### What becomes of empty texts -/

/-- The token that a request puts in force under a configuration. -/
def RenderRequest.tokenUnder (r : RenderRequest) (c : ConfigFile) : Text :=
  r.skipToken.getD c.effectiveSkipToken

/-- Arguments are the items of the document that a source gives, with this value for every empty
text. -/
def EmptyTextsBecome (F : Formats) (w : Surroundings) (v : Value) (source : Option Source)
    (args : List Value) : Prop :=
  ∀ s raw items, source = some s → w.document s = .ok raw → F.json raw = .ok (.array items) →
    List.Forall₂ (fun item arg => item = .string [] → arg = v) items args

variable {F : Formats} {w : Surroundings} {r : RenderRequest} {c : ConfigFile}

theorem effectiveSkipToken_ne_nil (h : Valid c) : c.effectiveSkipToken ≠ [] := by
  unfold ConfigFile.effectiveSkipToken
  cases htoken : c.skipToken with
  | none => decide
  | some token => exact fun hempty => h.skipToken (htoken.trans (congrArg some hempty))

theorem tokenUnder_eq_nil_iff (h : Valid c) : r.tokenUnder c = [] ↔ r.skipToken = some [] := by
  unfold RenderRequest.tokenUnder
  cases r.skipToken with
  | none => simpa using effectiveSkipToken_ne_nil h
  | some token => simp

theorem ofItem_empty (token : Text) :
    Arguments.ofItem token (.string []) = if token = [] then .skip else .str [] := by
  rw [Arguments.ofItem]
  exact if_congr eq_comm rfl rfl

theorem Gives.emptyTextsBecome {token : Text} {source : Option Source} {args : List Value}
    (h : Gives F w token source args) :
    EmptyTextsBecome F w (if token = [] then .skip else .str []) source args := by
  rintro s raw items rfl hraw hitems
  cases h with
  | document hraw' hitems' hargs =>
    obtain rfl : raw = _ :=
      Except.ok.inj (hraw.symm.trans (Surroundings.document_eq_ok_iff.2 hraw'))
    obtain rfl : items = _ := Json.array.inj (Except.ok.inj (hitems.symm.trans hitems'))
    rw [Arguments.forall₂_becomes_iff.1 hargs, List.forall₂_map_right_iff, List.forall₂_same]
    rintro _ - rfl
    exact ofItem_empty token

/-- A line that asks for a rendering is one of options, the last skip token of which is that of the
request. The token in force is empty if this one is, whatever configuration is accepted, and at no
other time. Then every empty text among the arguments becomes a skip marker; else it is passed on as
what it is. -/
theorem empty_token_only_by_flag (h : Command.read words = .ok (.render r)) :
    (∃ ss, words = "render".toList :: spelled ss ∧
      r.skipToken = lastValue? .skipToken (ss.map Spelling.option)) ∧
    (∀ F c, (c = .default ∨ ∃ raw, ConfigFile.read F raw = .ok c) →
      (r.tokenUnder c = [] ↔ r.skipToken = some [])) ∧
    ∀ F w job, prepare F w r = .ok job →
      EmptyTextsBecome F w (if r.skipToken = some [] then .skip else .str []) r.args job.args := by
  refine ⟨?_, fun F c hc => tokenUnder_eq_nil_iff ?_, fun F w job hjob => ?_⟩
  · obtain ⟨ss, rfl, hset⟩ := exists_spelled_of_read_render h
    have htoken : r.skipToken = (lastValue? .skipToken (ss.map Spelling.option)).or none :=
      skipToken_setAll hset
    exact ⟨ss, rfl, htoken.trans (Option.or_none)⟩
  · rcases hc with rfl | ⟨raw, hread⟩
    · exact ConfigFile.valid_default
    · exact (ConfigFile.read_eq_ok_iff.1 hread).2
  · obtain ⟨c, passes, template, args, hc, -, -, -, hargs, rfl⟩ := prepare_eq_ok_iff.1 hjob
    have hempty := (readArguments_eq_ok_iff.1 hargs).emptyTextsBecome
    have htoken : r.skipToken.getD c.effectiveSkipToken = [] ↔ r.skipToken = some [] :=
      tokenUnder_eq_nil_iff (loadConfig_eq_ok_iff.1 hc).2
    simpa only [htoken] using hempty

/-- With an empty token that is replaced. -/
theorem empty_token_only_by_last_flag :
    Command.read ["render".toList, "?d".toList, "--skip-token".toList, [], "--skip-token=-".toList,
        "--args=[\"\"]".toList] =
      .ok (.render
        ⟨none, .inline "?d".toList, some (.inline "[\"\"]".toList), none, some "-".toList⟩) ∧
    ∀ F w job,
      prepare F w
          ⟨none, .inline "?d".toList, some (.inline "[\"\"]".toList), none, some "-".toList⟩ =
        .ok job →
      EmptyTextsBecome F w (.str []) (some (.inline "[\"\"]".toList)) job.args := by
  have h : Command.read ["render".toList, "?d".toList, "--skip-token".toList, [],
        "--skip-token=-".toList, "--args=[\"\"]".toList] =
      .ok (.render
        ⟨none, .inline "?d".toList, some (.inline "[\"\"]".toList), none, some "-".toList⟩) := rfl
  exact ⟨h, (empty_token_only_by_flag h).2.2⟩

/-- An empty token is accepted on the command line, and an empty text then takes its block away;
bound as a text it would be a literal. -/
theorem empty_text_drops_block :
    Command.read ["render".toList, "\x7b?\x7d".toList, "--args".toList, "[\"\"]".toList,
        "--skip-token=".toList] =
      .ok (.render
        ⟨none, .inline "\x7b?\x7d".toList, some (.inline "[\"\"]".toList), none, some []⟩) ∧
    RenderRequest.tokenUnder
      ⟨none, .inline "\x7b?\x7d".toList, some (.inline "[\"\"]".toList), none, some []⟩
      .default = [] ∧
    (run .own (Directory.surroundings [] ByteArray.empty none "")
      ["render".toList, "\x7b?\x7d".toList, "--args".toList, "[\"\"]".toList,
        "--skip-token=".toList]).Prints [] ∧
    Template.build Escaper.mysql "\x7b?\x7d".toList [.str []] = .ok "''".toList := by
  have h : Command.read ["render".toList, "\x7b?\x7d".toList, "--args".toList, "[\"\"]".toList,
        "--skip-token=".toList] =
      .ok (.render
        ⟨none, .inline "\x7b?\x7d".toList, some (.inline "[\"\"]".toList), none, some []⟩) := rfl
  have hconfig :
      Configured .own (Directory.surroundings [] ByteArray.empty none "") none .default :=
    .absent rfl
  have hfilter : Filtered .own (Directory.surroundings [] ByteArray.empty none "") "warn".toList :=
    .inr ⟨_, Formats.own_logFilter (by decide +kernel : _ = some [.events [] 2])⟩
  have hitems : Formats.own.json "[\"\"]".toList = .ok (.array [.string []]) := by cbv
  have hargs : List.Forall₂ (Arguments.Becomes []) [.string []] [.skip] :=
    Arguments.forall₂_becomes_iff.2 rfl
  have hdropped : Template.build Escaper.mysql "\x7b?\x7d".toList [.skip] = .ok [] := rfl
  have hprints :
      (runRender .own (Directory.surroundings [] ByteArray.empty none "")
        ⟨none, .inline "\x7b?\x7d".toList, some (.inline "[\"\"]".toList), none,
          some []⟩).Prints [] :=
    prints_of_renders ⟨.default, _, _, hconfig, ConfigFile.valid_default, hfilter, by simp,
      .inline _, .document (.inline _) hitems hargs, hdropped⟩
  refine ⟨h, rfl, ?_, rfl⟩
  rw [run, h]
  exact hprints

end SqlTemplate.CommandLine
