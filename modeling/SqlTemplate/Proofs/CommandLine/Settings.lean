import SqlTemplate.CommandLine.Options
import SqlTemplate.Proofs.Outcome

/-! What options say, apart from how they are written. An option is understood without
regard to the others. Putting it into effect depends on them only where a document is given
a second time; otherwise settings of different subjects can change places, and of one
subject the last one counts. -/

namespace SqlTemplate.CommandLine

/-! ### Settings -/

/-- The documents of a rendering. -/
inductive Document where
  | template
  | args
deriving DecidableEq

namespace Document

/-- The flag of a document that stands on the command line itself. -/
def inlineFlag : Document → Flag
  | .template => .template
  | .args => .args

/-- The flag of a document that is read from a path. -/
def pathFlag : Document → Flag
  | .template => .templateFile
  | .args => .argsFile

def repeated : Document → UsageError
  | .template => .templateTwice
  | .args => .argsTwice

end Document

/-- What an option says once its value is understood. -/
inductive Setting where
  | config (path : Text)
  | document (d : Document) (s : Source)
  | dialect (d : Dialect)
  | skipToken (token : Text)
deriving DecidableEq

/-- What a setting is about. -/
inductive Subject where
  | config
  | document (d : Document)
  | dialect
  | skipToken

namespace Setting

def subject : Setting → Subject
  | .config _ => .config
  | .document d _ => .document d
  | .dialect _ => .dialect
  | .skipToken _ => .skipToken

/-- What a flag says with its value. -/
def read : Flag × Text → Except UsageError Setting
  | (.config, v) => .ok (.config v)
  | (.template, v) => .ok (.document .template (.inline v))
  | (.templateFile, v) => .ok (.document .template (.ofPath v))
  | (.args, v) => .ok (.document .args (.inline v))
  | (.argsFile, v) => .ok (.document .args (.ofPath v))
  | (.dialect, v) =>
    match Dialect.choose v with
    | .ok d => .ok (.dialect d)
    | .error u => .error (.unknownDialect u)
  | (.skipToken, v) => .ok (.skipToken v)

variable {c c' : Setting} {g g' : Flag × Text}

theorem read_inlineFlag (d : Document) (t : Text) :
    read (d.inlineFlag, t) = .ok (.document d (.inline t)) := by
  cases d <;> rfl

theorem read_pathFlag (d : Document) (path : Text) :
    read (d.pathFlag, path) = .ok (.document d (.ofPath path)) := by
  cases d <;> rfl

/-- The flag tells the subject. -/
theorem subject_eq_of_read (h : read g = .ok c) (h' : read g' = .ok c') (hflag : g.1 = g'.1) :
    c.subject = c'.subject := by
  obtain ⟨f, v⟩ := g
  obtain ⟨f', v'⟩ := g'
  obtain rfl : f = f' := hflag
  cases f with
  | dialect =>
    simp only [read] at h h'
    split at h <;> cases h
    split at h' <;> cases h'
    rfl
  | _ =>
    cases h
    cases h'
    rfl

/-- The option that says a setting. -/
def option : Setting → Flag × Text
  | .config path => (.config, path)
  | .document d (.inline t) => (d.inlineFlag, t)
  | .document d (.file path) => (d.pathFlag, path)
  | .document d .stdin => (d.pathFlag, ['-'])
  | .dialect d => (.dialect, d.name.toList)
  | .skipToken token => (.skipToken, token)

/-- No file is named by a path that is a dash, which would be read as the standard input. -/
def Nameable : Setting → Prop
  | .document _ s => s ≠ .file ['-']
  | _ => True

theorem read_option (h : c.Nameable) : read c.option = .ok c := by
  cases c with
  | document d s =>
    cases s with
    | inline t => exact read_inlineFlag d t
    | stdin => exact read_pathFlag d ['-']
    | file path =>
      have hread := read_pathFlag d path
      rw [Source.ofPath, if_neg fun hdash => h (congrArg Source.file hdash)] at hread
      exact hread
  | dialect d => cases d <;> rfl
  | config path => rfl
  | skipToken token => rfl

end Setting

/-! ### Putting them into effect -/

namespace Options

variable {o o₁ : Options} {c c' : Setting} {d : Document}

/-- The source of a document, once it has one. -/
def source? (o : Options) : Document → Option Source
  | .template => o.template
  | .args => o.args

def update (o : Options) : Setting → Options
  | .config path => { o with config := some path }
  | .document .template s => { o with template := some s }
  | .document .args s => { o with args := some s }
  | .dialect d => { o with dialect := some d }
  | .skipToken token => { o with skipToken := some token }

/-- A setting cannot be put into effect if its document has a source already. -/
def conflict? (o : Options) : Setting → Option UsageError
  | .document d _ => if (o.source? d).isSome then some d.repeated else none
  | _ => none

def put (o : Options) (c : Setting) : Except UsageError Options :=
  match o.conflict? c with
  | some e => .error e
  | none => .ok (o.update c)

theorem put_eq_ok_iff : o.put c = .ok o₁ ↔ o.conflict? c = none ∧ o₁ = o.update c := by
  unfold put
  cases o.conflict? c <;> simp [eq_comm]

theorem setTemplate_eq (o : Options) (s : Source) :
    o.setTemplate s = o.put (.document .template s) := by
  unfold setTemplate put conflict? source?
  cases o.template <;> rfl

theorem setArgs_eq (o : Options) (s : Source) : o.setArgs s = o.put (.document .args s) := by
  unfold setArgs put conflict? source?
  cases o.args <;> rfl

/-- To set an option is to understand it and then to put it into effect. -/
theorem set_eq (o : Options) (g : Flag × Text) : o.set g.2 g.1 = (Setting.read g).bind o.put := by
  obtain ⟨f, v⟩ := g
  cases f with
  | template | templateFile => exact setTemplate_eq o _
  | args | argsFile => exact setArgs_eq o _
  | dialect =>
    simp only [set, Setting.read]
    cases Dialect.choose v <;> rfl
  | config | skipToken => rfl

theorem update_comm (h : c.subject ≠ c'.subject) (o : Options) :
    (o.update c).update c' = (o.update c').update c := by
  rcases c with _ | ⟨_ | _, _⟩ | _ | _ <;> rcases c' with _ | ⟨_ | _, _⟩ | _ | _ <;>
    first | rfl | exact absurd rfl h

theorem update_again (h : c.subject = c'.subject) (o : Options) :
    (o.update c).update c' = o.update c' := by
  rcases c with _ | ⟨_ | _, _⟩ | _ | _ <;> rcases c' with _ | ⟨_ | _, _⟩ | _ | _ <;>
    first | rfl | cases h

theorem conflict?_update (h : c.subject ≠ c'.subject) (o : Options) :
    (o.update c).conflict? c' = o.conflict? c' := by
  rcases c with _ | ⟨_ | _, _⟩ | _ | _ <;> rcases c' with _ | ⟨_ | _, _⟩ | _ | _ <;>
    first | rfl | exact absurd rfl h

/-- A setting that is in effect makes no difference to those of other subjects. -/
theorem put_update (h : c.subject ≠ c'.subject) (o : Options) :
    (o.update c).put c' = (o.put c').map fun o' => o'.update c := by
  unfold put
  rw [conflict?_update h]
  cases o.conflict? c' with
  | some e => rfl
  | none => exact congrArg Except.ok (update_comm h o)

theorem source?_update_document (o : Options) (d : Document) (s : Source) :
    (o.update (.document d s)).source? d = some s := by
  cases d <;> rfl

theorem isSome_source?_update (c : Setting) (h : (o.source? d).isSome) :
    ((o.update c).source? d).isSome := by
  rcases c with _ | ⟨_ | _, _⟩ | _ | _ <;> cases d <;> first | rfl | exact h

/-- Once a document has a source, it gets no other. -/
theorem put_document_given (h : (o.source? d).isSome) (s : Source) :
    o.put (.document d s) = .error d.repeated := by
  rw [put, conflict?, if_pos h]

theorem put_document_free (h : ¬ (o.source? d).isSome) (s : Source) :
    o.put (.document d s) = .ok (o.update (.document d s)) := by
  rw [put, conflict?, if_neg h]

end Options

end SqlTemplate.CommandLine
