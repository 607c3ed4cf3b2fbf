import AccessRules.Builder
import AccessRules.Proofs.Outcome

/-!
# Sessions with a builder

A session is what a program does with one builder: it opens groups of patterns,
calls for access on any group opened so far, replaces the handler, and creates
sources.  A step that fails leaves an error and goes on with the state as far as
it was changed before the failure.

The state keeps the groups opened and the sources created so far.
-/

namespace AccessRules

/-- What a group is opened with. -/
inductive Opening where
  | ant (patterns : List String) (method : Option String)
  | regex (patterns : List String) (method : Option String)
  | matchers (matchers : List Matcher)
  | any

/-- The group that is opened under the settings of a builder. -/
def Opening.group (settings : Settings) : Opening → Except Fault Group
  | ant patterns method => Group.ant settings patterns method
  | regex patterns method => Group.regex patterns method
  | matchers ms => Group.ofMatchers ms
  | any => .ok Group.any

/-- One step of a program.  Groups are counted in the order in which they were
opened. -/
inductive Action where
  | openGroup (opening : Opening)
  | access (group : Nat) (call : AccessCall)
  | install (handler : Handler)
  | createSource

/-- The handler after a step that may replace it. -/
def Action.handlerAfter (handler : Handler) : Action → Handler
  | .install handler => handler
  | _ => handler

/-- A builder with the groups opened and the sources created so far. -/
structure Session where
  builder : Builder
  groups : List Group
  sources : List Source

namespace Session

/-- The session before the first step. -/
def start (settings : Settings) : Session := ⟨.make settings, [], []⟩

/-- Opens a group. -/
def openGroup (s : Session) (opening : Opening) : Except Fault Unit × Session :=
  match opening.group s.builder.settings with
  | .ok g => (.ok (), { s with groups := s.groups ++ [g] })
  | .error f => (.error f, s)

/-- Calls for access on a group that was opened; nothing happens where there is
no such group. -/
def access (s : Session) (group : Nat) (call : AccessCall) :
    Except Fault Unit × Session :=
  match s.groups[group]? with
  | none => (.ok (), s)
  | some g =>
    match s.builder.call g call with
    | .ok (_, builder) => (.ok (), { s with builder })
    | .error f => (.error f, s)

/-- Creates a source.  The registry is compiled also where the source is
refused. -/
def createSource (s : Session) : Except Fault Unit × Session :=
  let (built, builder) := s.builder.createSource.value
  match built with
  | .ok (some source) =>
    (.ok (), { s with builder, sources := s.sources ++ [source] })
  | .ok none => (.ok (), { s with builder })
  | .error f => (.error f, { s with builder })

/-- The outcome of a step, and the session after it. -/
def step (s : Session) : Action → Except Fault Unit × Session
  | .openGroup opening => s.openGroup opening
  | .access group call => s.access group call
  | .install handler =>
    (.ok (), { s with builder := s.builder.withHandler handler })
  | .createSource => s.createSource

/-- The session after some steps. -/
def run (s : Session) (actions : List Action) : Session :=
  actions.foldl (fun s a => (s.step a).2) s

theorem run_concat (s : Session) (actions : List Action) (a : Action) :
    s.run (actions ++ [a]) = ((s.run actions).step a).2 :=
  List.foldl_concat _ _ _ _

/-- What every step preserves holds after all steps. -/
theorem run_induction {motive : Session → Prop} {s : Session}
    (hstart : motive s)
    (hstep : ∀ (s : Session) (a : Action), motive s → motive (s.step a).2)
    (actions : List Action) :
    motive (s.run actions) := by
  induction actions generalizing s with
  | nil => exact hstart
  | cons a actions ih => exact ih (hstep s a hstart)

/-! ## Handlers -/

theorem handler_call {b b' : Builder} {g : Group} {call : AccessCall}
    {rule : Rule} (h : b.call g call = .ok (rule, b')) :
    b'.handler = b.handler := by
  rw [Builder.call, Outcome.bind_eq_ok_iff] at h
  obtain ⟨r, -, h⟩ := h
  obtain ⟨⟨rule', registry⟩, -, h⟩ := Outcome.bind_eq_ok_iff.mp h
  cases h
  rfl

theorem handler_createSource (b : Builder) :
    b.createSource.value.2.handler = b.handler := by
  simp only [Builder.createSource, Logged.andThen]
  split
  · rfl
  · rfl

/-- Only its replacement changes the handler. -/
theorem handler_step (s : Session) (a : Action) :
    (s.step a).2.builder.handler = a.handlerAfter s.builder.handler := by
  cases a with
  | openGroup opening =>
    cases hgroup : opening.group s.builder.settings with
    | ok g => simp [step, openGroup, hgroup, Action.handlerAfter]
    | error f => simp [step, openGroup, hgroup, Action.handlerAfter]
  | access group call =>
    cases hgroup : s.groups[group]? with
    | none => simp [step, access, hgroup, Action.handlerAfter]
    | some g =>
      cases hcall : s.builder.call g call with
      | error f => simp [step, access, hgroup, hcall, Action.handlerAfter]
      | ok called =>
        have hsame := handler_call hcall
        simpa [step, access, hgroup, hcall, Action.handlerAfter] using hsame
  | install handler => rfl
  | createSource =>
    have hsame := handler_createSource s.builder
    simp only [step, createSource]
    split
    · exact hsame
    · exact hsame
    · exact hsame

/-! ## Sources -/

/-- The sources after a step are those before it, or one more that was created
by this step. -/
theorem sources_step (s : Session) (a : Action) :
    (s.step a).2.sources = s.sources ∨
      ∃ source, s.builder.createSource.value.1 = .ok (some source) ∧
        (s.step a).2.sources = s.sources ++ [source] := by
  cases a with
  | openGroup opening =>
    left
    cases hgroup : opening.group s.builder.settings with
    | ok g => simp [step, openGroup, hgroup]
    | error f => simp [step, openGroup, hgroup]
  | access group call =>
    left
    cases hgroup : s.groups[group]? with
    | none => simp [step, access, hgroup]
    | some g =>
      cases hcall : s.builder.call g call with
      | ok called => simp [step, access, hgroup, hcall]
      | error f => simp [step, access, hgroup, hcall]
  | install handler => exact Or.inl rfl
  | createSource =>
    cases hbuilt : s.builder.createSource.value.1 with
    | error f => exact Or.inl (by simp [step, createSource, hbuilt])
    | ok built =>
      cases built with
      | none => exact Or.inl (by simp [step, createSource, hbuilt])
      | some source =>
        exact Or.inr ⟨source, rfl, by simp [step, createSource, hbuilt]⟩

end Session

end AccessRules
