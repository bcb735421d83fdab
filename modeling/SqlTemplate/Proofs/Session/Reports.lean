import SqlTemplate.Session
import SqlTemplate.Text.Utf8

/-! Sessions of any length. A step keeps the escaper, and only changes touch the settings; so at
every place of a session the settings in force are those that the changes before it have
made, and a build gives what it gives without a session. Whichever way it ends and whatever
the level in force, it emits one event, which tells of this build and of no other. -/

namespace SqlTemplate

/-- The change that a step makes to the settings, if it is one. -/
def Step.change? : Step → Option Change
  | .change c => some c
  | .identifier _ | .build _ _ => none

/-- The settings after steps, of which only the changes count. -/
def Settings.after (s : Settings) (steps : List Step) : Settings :=
  (steps.filterMap Step.change?).foldl Settings.apply s

/-- What the event of a build holds: the sizes in bytes and the number of arguments, and SQL only
where the settings in force show it, or the very error. -/
def Event.Reports (s : Settings) (template : Text) (args : List Value) (event : Event) :
    Except TemplateError Text → Prop
  | .ok sql => event = ⟨s.level, template.encode.size, args.length,
      if s.logSql then .sql (shownSql s sql) else .sqlSize sql.encode.size⟩
  | .error err => event = ⟨.warn, template.encode.size, args.length,
      .failure err.kind err.position? err.message⟩

/-- What is written of the event of a build: its message and its fields in order. -/
def Event.Writes (s : Settings) (template : Text) (args : List Value) (event : Event) :
    Except TemplateError Text → Prop
  | .ok sql => event.message = "template built" ∧
      event.fields = [("template_len", .count template.encode.size), ("args", .count args.length),
        if s.logSql then ("sql", .text (String.ofList (shownSql s sql)))
        else ("sql_len", .count sql.encode.size)]
  | .error err => event.message = "template build failed" ∧
      event.fields = [("template_len", .count template.encode.size), ("args", .count args.length),
        ("kind", .text err.kind.name),
        ("position", .text (err.position?.elim "None" fun p => "Some(" ++ toString p ++ ")")),
        ("error", .text err.message)]

theorem Event.positionText_eq (position : Option Nat) :
    positionText position = position.elim "None" fun p => "Some(" ++ toString p ++ ")" := by
  cases position <;> rfl

theorem Event.Reports.writes {s : Settings} {template : Text} {args : List Value} {event : Event}
    {result : Except TemplateError Text} (h : event.Reports s template args result) :
    event.Writes s template args result := by
  cases result with
  | ok sql =>
    obtain rfl := h
    cases hlog : s.logSql <;> simp [Writes, message, fields, hlog]
  | error err =>
    obtain rfl := h
    exact ⟨rfl, by simp only [fields, positionText_eq, List.cons_append, List.nil_append]⟩

/-! ### Emitting -/

/-- Every level has its way to emit one event, and it is an event of this level. -/
theorem emitAt_eq (level : Level) (event : Level → Event) : emitAt level event = [event level] := by
  cases level <;> rfl

theorem emitBuilt_eq (s : Settings) (template : Text) (args : Nat) (sql : Text) :
    emitBuilt s template args sql =
      [⟨s.level, template.size, args,
        if s.logSql then .sql (shownSql s sql) else .sqlSize sql.size⟩] := by
  unfold emitBuilt
  split <;> exact emitAt_eq _ _

/-- A build emits one event, which reports its result. -/
theorem Session.exists_trace_eq (s : Session) (template : Text) (args : List Value)
    (result : Except TemplateError Text) :
    ∃ event, s.trace template args.length result = [event] ∧
      event.Reports s.settings template args result := by
  cases result with
  | ok sql =>
    refine ⟨_, emitBuilt_eq s.settings template args.length sql, ?_⟩
    simp only [Event.Reports, Text.size_encode]
  | error err =>
    refine ⟨_, rfl, ?_⟩
    simp only [Event.Reports, Text.size_encode]

namespace Settings

theorem after_append (s : Settings) (xs ys : List Step) :
    s.after (xs ++ ys) = (s.after xs).after ys := by
  simp [after]

/-- Changes can put any settings in force, whatever was in force before. -/
theorem exists_changes (s t : Settings) :
    ∃ changes : List Change, s.after (changes.map .change) = t := by
  obtain ⟨logSql, maxSqlLength, level⟩ := t
  -- A reset turns the SQL on and sets a limit; both can be undone.
  refine ⟨[.reset, .level level] ++ (if logSql then [] else [.withoutSql]) ++
    [maxSqlLength.elim .noTruncation .maxSqlLength], ?_⟩
  cases logSql <;> cases maxSqlLength <;> rfl

end Settings

namespace Session

variable (s : Session)

/-- The session that steps leave. -/
def next (steps : List Step) : Session := steps.foldl (fun s x => (s.step x).2) s

@[simp] theorem run_nil : s.run [] = [] := rfl

@[simp] theorem run_cons (x : Step) (xs : List Step) :
    s.run (x :: xs) = (s.step x).1 :: (s.step x).2.run xs := rfl

/-- A step keeps the escaper and leaves the settings as its change makes them. -/
theorem step_snd (x : Step) : (s.step x).2 = ⟨s.escaper, s.settings.after [x]⟩ := by
  cases x <;> rfl

theorem next_eq (steps : List Step) : s.next steps = ⟨s.escaper, s.settings.after steps⟩ := by
  induction steps generalizing s with
  | nil => rfl
  | cons x xs ih =>
    have hcons : s.next (x :: xs) = (s.step x).2.next xs := rfl
    rw [hcons, ih, step_snd, ← Settings.after_append, List.singleton_append]

theorem run_append (xs ys : List Step) : s.run (xs ++ ys) = s.run xs ++ (s.next xs).run ys := by
  induction xs generalizing s with
  | nil => rfl
  | cons x xs ih => rw [List.cons_append, run_cons, ih]; rfl

@[simp] theorem length_run (steps : List Step) : (s.run steps).length = steps.length := by
  induction steps generalizing s with
  | nil => rfl
  | cons x xs ih => simp [ih]

/-- The answer to a step between others is that of the session that the steps before it leave. -/
theorem getElem?_run (before after : List Step) (x : Step) :
    (s.run (before ++ x :: after))[before.length]? = some ((s.next before).step x).1 := by
  rw [run_append, List.getElem?_append_right (by simp)]
  simp

theorem getElem?_run_start (e : Escaper) (before after : List Step) (template : Text)
    (args : List Value) :
    ((start e).run (before ++ .build template args :: after))[before.length]? =
      some (.built (Template.build e template args)
        ((Session.mk e (Settings.default.after before)).trace template args.length
          (Template.build e template args))) := by
  rw [getElem?_run, next_eq]
  rfl

/-- A build gives what it gives without a session, whatever steps came before it and come after it,
and emits one event, which tells of this build under the settings that are then in force: any
settings can be. If the build fails, its answer is the same at every place of every session with
this escaper. -/
theorem built_at_every_place (e : Escaper) (before after : List Step) (template : Text)
    (args : List Value) :
    (∃ event, ((start e).run (before ++ .build template args :: after))[before.length]? =
        some (.built (Template.build e template args) [event]) ∧
      event.Reports (Settings.default.after before) template args (Template.build e template args) ∧
      event.Writes (Settings.default.after before) template args (Template.build e template args)) ∧
    (∀ settings, ∃ changes : List Change,
      Settings.default.after (before ++ changes.map .change) = settings) ∧
    ∀ err before' after', Template.build e template args = .error err →
      ((start e).run (before' ++ .build template args :: after'))[before'.length]? =
        ((start e).run (before ++ .build template args :: after))[before.length]? := by
  refine ⟨?_, fun settings => ?_, ?_⟩
  · obtain ⟨event, htrace, hreports⟩ :=
      exists_trace_eq ⟨e, Settings.default.after before⟩ template args
        (Template.build e template args)
    refine ⟨event, ?_, hreports, hreports.writes⟩
    rw [getElem?_run_start, htrace]
  · obtain ⟨changes, h⟩ := Settings.exists_changes (Settings.default.after before) settings
    exact ⟨changes, by rw [Settings.after_append, h]⟩
  · intro err before' after' herr
    rw [getElem?_run_start, getElem?_run_start, herr]
    rfl

end Session

end SqlTemplate
