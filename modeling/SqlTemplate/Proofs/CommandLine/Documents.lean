import SqlTemplate.CommandLine.Run
import SqlTemplate.Proofs.CommandLine.Sources
import SqlTemplate.Proofs.CommandLine.Settings
import SqlTemplate.Proofs.CommandLine.Spelling

/-! Documents that are saved in a file or come from the standard input. What is read of them
is all but the line end at their end. A command line asks for the same rendering wherever the
text of a document comes from: the rest of the line is read without regard to it, and so is
the rendering prepared. -/

namespace SqlTemplate

namespace CommandLine

/-! ### The rest of a line -/

/-- Readings that differ in the source of a document alone: the same fault or request for help, or
options that agree but for this source. -/
inductive Alike (d : Document) (a b : Source) :
    Except UsageError (Option Options) → Except UsageError (Option Options) → Prop
  | same (x : Except UsageError (Option Options)) : Alike d a b x x
  | options (o : Options) :
    Alike d a b (.ok (some (o.update (.document d a)))) (.ok (some (o.update (.document d b))))

variable {d : Document} {a b : Source} {o : Options}

/-- An option is set without regard to the source of a document, be it refused or not. -/
theorem set_update_document (d : Document) (o : Options) (g : Flag × Text) :
    ∃ x : Except UsageError Options, ∀ s,
      (o.update (.document d s)).set g.2 g.1 = x.map fun o' => o'.update (.document d s) := by
  cases hread : Setting.read g with
  | error e =>
    refine ⟨.error e, fun s => ?_⟩
    rw [Options.set_eq, hread]
    rfl
  | ok c =>
    by_cases hsame : c.subject = .document d
    -- A second source for the document is refused, whichever the first one is.
    · refine ⟨.error d.repeated, fun s => ?_⟩
      obtain ⟨s', rfl⟩ : ∃ s', c = .document d s' := by
        cases c with
        | document d' s' =>
          cases hsame
          exact ⟨s', rfl⟩
        | config | dialect | skipToken => cases hsame
      rw [Options.set_eq, hread]
      exact Options.put_document_given (by rw [Options.source?_update_document]; rfl) s'
    · refine ⟨o.put c, fun s => ?_⟩
      rw [Options.set_eq, hread]
      exact Options.put_update (Ne.symm hsame) o

theorem alike_read (d : Document) (a b : Source) (words : List Text) (o : Options) :
    Alike d a b (Options.read Flag.all words (o.update (.document d a)))
      (Options.read Flag.all words (o.update (.document d b))) := by
  induction line words generalizing o with
  | nil => exact .options o
  | ends x _ hread =>
    rw [hread, hread]
    exact .same x
  | option s _ ih =>
    obtain ⟨x, hx⟩ := set_update_document d o s.option
    rw [read_spelling, read_spelling, hx, hx]
    cases x with
    | error e => exact .same _
    | ok o' => exact ih o'

/-! ### The rendering -/

namespace RenderRequest

/-- The request with another source for a document. -/
def withSource (r : RenderRequest) (s : Source) : Document → RenderRequest
  | .template => { r with template := s }
  | .args => { r with args := some s }

def UsesStdin (r : RenderRequest) : Prop := r.template = .stdin ∨ r.args = some .stdin

end RenderRequest

theorem toRender_update (o : Options) (d : Document) :
    (∃ e, ∀ s, (o.update (.document d s)).toRender = .error e) ∨
    ∃ r : RenderRequest, ∀ s, (o.update (.document d s)).toRender =
      .ok (.render (r.withSource s d)) := by
  cases d with
  | template => exact .inr ⟨⟨o.config, .stdin, o.args, o.dialect, o.skipToken⟩, fun _ => rfl⟩
  | args =>
    cases htemplate : o.template with
    | none =>
      refine .inl ⟨.templateMissing, fun s => ?_⟩
      simp [Options.toRender, Options.update, htemplate]
    | some t =>
      refine .inr ⟨⟨o.config, t, none, o.dialect, o.skipToken⟩, fun s => ?_⟩
      simp [Options.toRender, Options.update, htemplate, RenderRequest.withSource]

variable {F : Formats} {w : Surroundings} {t : Text}

/-- A rendering is prepared from the text of a document, wherever it comes from; only the standard
input cannot give both documents. -/
theorem prepare_withSource (ha : w.document a = .ok t) (hb : w.document b = .ok t)
    (hinline : b ≠ .stdin) {r : RenderRequest}
    (hstdin : a = .stdin → ¬ (r.withSource b d).UsesStdin) :
    prepare F w (r.withSource a d) = prepare F w (r.withSource b d) := by
  cases d with
  | template =>
    have hab : ¬ (a = .stdin ∧ r.args = some .stdin) := fun h => hstdin h.1 (.inr h.2)
    have hbb : ¬ (b = .stdin ∧ r.args = some .stdin) := fun h => hinline h.1
    simp only [prepare, setUp, RenderRequest.withSource, hab, hbb, if_false, readDocument, ha, hb]
  | args =>
    have hab : ¬ (r.template = .stdin ∧ some a = some .stdin) := fun h =>
      hstdin (Option.some.inj h.2) (.inl h.1)
    have hbb : ¬ (r.template = .stdin ∧ some b = some .stdin) := fun h =>
      hinline (Option.some.inj h.2)
    simp only [prepare, setUp, RenderRequest.withSource, hab, hbb, if_false, readArguments,
      readDocument, ha, hb]

theorem run_render_of_alike {words words' : List Text}
    (h : Alike d a b (Options.read Flag.all words {}) (Options.read Flag.all words' {}))
    (ha : w.document a = .ok t) (hb : w.document b = .ok t) (hinline : b ≠ .stdin)
    (hstdin : a = .stdin →
      ∀ r, Command.read ("render".toList :: words') = .ok (.render r) → ¬ r.UsesStdin) :
    run F w ("render".toList :: words) = run F w ("render".toList :: words') := by
  have hread (words : List Text) : Command.read ("render".toList :: words) = readRender words := rfl
  simp only [run, hread, readRender] at hstdin ⊢
  generalize Options.read Flag.all words {} = x at h
  generalize Options.read Flag.all words' {} = y at h hstdin
  cases h with
  | same => rfl
  | options o =>
    rcases toRender_update o d with ⟨e, he⟩ | ⟨r, hr⟩
    · simp only [Except.bind, he]
    · simp only [Except.bind, hr, Except.ok.injEq, Command.render.injEq, forall_eq'] at hstdin ⊢
      simp only [Command.run, runRender, prepare_withSource ha hb hinline hstdin]

/-! ### Saved documents -/

/-- What a path names on the command line, a file or the standard input, holds these bytes. -/
def Surroundings.Holds (w : Surroundings) (path : Text) (bytes : ByteArray) : Prop :=
  if path = ['-'] then w.stdin = .ok bytes else w.file path = .ok bytes

theorem ofPath_eq_stdin_iff {path : Text} : Source.ofPath path = .stdin ↔ path = ['-'] := by
  unfold Source.ofPath
  split <;> simp [*]

theorem document_of_holds {path u : Text} (h : w.Holds path t.encode) :
    w.document (.ofPath path) = .ok u ↔ WithoutLineEnd t u := by
  have hsupplied {x : Except ReadFault ByteArray} (hx : x = .ok t.encode) :
      (x.bind textOf).map dropLineEnd = .ok u ↔ WithoutLineEnd t u := by
    rw [hx, Surroundings.bind_textOf_eq_ok_iff.2 rfl, ← dropLineEnd_eq_iff, Except.map,
      Except.ok.injEq]
  unfold Surroundings.Holds at h
  unfold Source.ofPath
  split at h
  next hdash =>
    rw [if_pos hdash]
    exact hsupplied h
  next hdash =>
    rw [if_neg hdash]
    exact hsupplied h

theorem withoutLineEnd_append {s ending : Text} (hcr : s.getLast? ≠ some '\r')
    (hlf : s.getLast? ≠ some '\n') (hending : ending ∈ [[], ['\n'], ['\r', '\n']]) :
    WithoutLineEnd (s ++ ending) s := by
  simp only [List.mem_cons, List.not_mem_nil, or_false] at hending
  rcases hending with rfl | rfl | rfl
  · rw [List.append_nil]
    exact .none hlf
  · exact .lf hcr
  · exact .crlf s

theorem alike_spelling {saved inline : Spelling} {s path : Text}
    (hsaved : saved.option = (d.pathFlag, path)) (hinline : inline.option = (d.inlineFlag, s))
    (post : List Text) (o : Options) :
    Alike d (.ofPath path) (.inline s) (Options.read Flag.all (saved.words ++ post) o)
      (Options.read Flag.all (inline.words ++ post) o) := by
  rw [read_spelling, read_spelling, Options.set_eq, Options.set_eq, hsaved, hinline,
    Setting.read_pathFlag, Setting.read_inlineFlag]
  show Alike d (.ofPath path) (.inline s)
    ((o.put (.document d (.ofPath path))).bind (Options.read Flag.all post))
    ((o.put (.document d (.inline s))).bind (Options.read Flag.all post))
  by_cases hgiven : (o.source? d).isSome
  · rw [Options.put_document_given hgiven, Options.put_document_given hgiven]
    exact .same _
  · rw [Options.put_document_free hgiven, Options.put_document_free hgiven]
    exact alike_read d (.ofPath path) (.inline s) post o

/-- A document that is saved, with or without a line end behind it, renders as its text on the
command line does, whatever else stands on the line: the exit code and both outputs are the same. Of
any saved document, the line end at its end is dropped, a line feed or the two characters of one,
and nothing else. -/
theorem saved_renders_as_inline {d : Document} {s ending path : Text} {saved inline : Spelling}
    {pre : List Text} {w : Surroundings} (hcr : s.getLast? ≠ some '\r')
    (hlf : s.getLast? ≠ some '\n') (hending : ending ∈ [[], ['\n'], ['\r', '\n']])
    (hsaved : saved.option = (d.pathFlag, path)) (hinline : inline.option = (d.inlineFlag, s))
    (hpre : Whole Flag.all pre) (post : List Text)
    (hholds : w.Holds path (Text.encode (s ++ ending)))
    (hstdin : path = ['-'] → ∀ r,
      Command.read ("render".toList :: (pre ++ (inline.words ++ post))) = .ok (.render r) →
      ¬ r.UsesStdin)
    (F : Formats) :
    run F w ("render".toList :: (pre ++ (saved.words ++ post))) =
      run F w ("render".toList :: (pre ++ (inline.words ++ post))) ∧
    ∀ path t u, w.Holds path (Text.encode t) →
      (w.document (.ofPath path) = .ok u ↔ WithoutLineEnd t u) := by
  constructor
  · have hdocument : w.document (.ofPath path) = .ok s :=
      (document_of_holds hholds).2 (withoutLineEnd_append hcr hlf hending)
    have halike := read_append_rel .same hpre (alike_spelling hsaved hinline post) {}
    exact run_render_of_alike halike hdocument rfl nofun fun hpath =>
      hstdin (ofPath_eq_stdin_iff.1 hpath)
  · intro path t u ht
    exact document_of_holds ht

/-- A template from the standard input, with a line end of two characters, in front of arguments on
the line. -/
theorem saved_renders_as_inline_from_stdin :
    "?d".toList.getLast? ≠ some '\r' ∧ "?d".toList.getLast? ≠ some '\n' ∧
    Whole Flag.all ["--dialect=ansi".toList] ∧
    (Directory.surroundings [] (Text.encode "?d\r\n".toList) none "").Holds ['-']
      (Text.encode ("?d".toList ++ ['\r', '\n'])) ∧
    run .own (Directory.surroundings [] (Text.encode "?d\r\n".toList) none "")
        ["render".toList, "--dialect=ansi".toList, "--template-file".toList, "-".toList,
          "--args=[1]".toList] =
      run .own (Directory.surroundings [] (Text.encode "?d\r\n".toList) none "")
        ["render".toList, "--dialect=ansi".toList, "?d".toList, "--args=[1]".toList] := by
  have hcr : "?d".toList.getLast? ≠ some '\r' := by decide
  have hlf : "?d".toList.getLast? ≠ some '\n' := by decide
  have hpre : Whole Flag.all ["--dialect=ansi".toList] := .word (by decide) .nil
  have hholds : (Directory.surroundings [] (Text.encode "?d\r\n".toList) none "").Holds ['-']
      (Text.encode ("?d".toList ++ ['\r', '\n'])) := by
    rw [Surroundings.Holds, if_pos rfl]
    rfl
  have hread : Command.read ["render".toList, "--dialect=ansi".toList, "?d".toList,
        "--args=[1]".toList] =
      .ok (.render ⟨none, .inline "?d".toList, some (.inline "[1]".toList), some .ansi, none⟩) :=
        rfl
  have hsaved : (Spelling.separate .templateFile ['-']).option =
      (Document.template.pathFlag, ['-']) := rfl
  have hinline : (Spelling.bare "?d".toList rfl).option =
      (Document.template.inlineFlag, "?d".toList) := rfl
  obtain ⟨hrun, -⟩ := saved_renders_as_inline hcr hlf (by decide) hsaved hinline hpre
    ["--args=[1]".toList] hholds
    (fun _ r hr => by
      cases hread.symm.trans hr
      simp [RenderRequest.UsesStdin])
    .own
  exact ⟨hcr, hlf, hpre, hholds, hrun⟩

end CommandLine

end SqlTemplate
