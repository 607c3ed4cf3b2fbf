import AccessRules.Proofs.Builder.Session
import AccessRules.Proofs.Rule.Lifecycle

/-!
# What a session leaves in the registry

Besides setting up rules, a program looks requests up in the sources that it has
created, and decides on requests.  So an event of a session is a step of the
set-up, a lookup or a decision.

What an event changes is said once, by the relation `Changes`.  The rules of the
registry are those of the access calls that were accepted, and the first
compilation that succeeds ends their history, whether or not a source is created
from it.  All sources share the table of that compilation, so they find the same
attributes.
-/

namespace AccessRules

/-- The rule that a call asks for: one requirement for all patterns of a
group. -/
def Group.ruleOf (g : Group) (settings : Settings) (call : AccessCall) :
    Except Fault Rule :=
  (call.requirement settings).map fun r => ⟨g.patterns, [.requirement r]⟩

namespace Session

/-- What happens in a session.  Groups and sources are counted in the order in
which they came. -/
inductive Event where
  | act (a : Action)
  | lookup (source : Nat) (r : Request)
  | decide (m : Manager) (source : Nat) (c : Context)

/-- What a program is answered. -/
inductive Reply where
  | done
  | found (attributes : Option (List Attribute))
deriving DecidableEq

/-- The answer to an event, and the session after it.  Nothing happens where
there is no such source. -/
def perform (s : Session) : Event → Except Fault Reply × Session
  | .act a => ((s.step a).1.map fun _ => .done, (s.step a).2)
  | .lookup source r =>
    match s.sources[source]? with
    | some x => (.ok (.found (x.lookup r).value), s)
    | none => (.ok .done, s)
  | .decide m source c =>
    match s.sources[source]? with
    | some x => ((m.decide c (x.lookup c.request).value).map fun _ => .done, s)
    | none => (.ok .done, s)

/-- The session after some events. -/
def after (s : Session) (events : List Event) : Session :=
  events.foldl (fun s e => (s.perform e).2) s

/-- The group that an event opens. -/
def Event.opened? (settings : Settings) : Event → Option Group
  | .act (.openGroup opening) => (opening.group settings).toOption
  | _ => none

/-- The access call that an event makes with success, and the group that it is
made on. -/
def accepted? (s : Session) : Event → Option (Group × AccessCall)
  | .act (.access group call) =>
    match s.groups[group]?, (s.access group call).1 with
    | some g, .ok _ => some (g, call)
    | _, _ => none
  | _ => none

/-- The access calls that are made with success, in order. -/
def accepted (s : Session) : List Event → List (Group × AccessCall)
  | [] => []
  | e :: events => (s.accepted? e).toList ++ (s.perform e).2.accepted events

theorem after_cons (s : Session) (e : Event) (events : List Event) :
    s.after (e :: events) = (s.perform e).2.after events :=
  rfl

theorem after_append (s : Session) (before events : List Event) :
    s.after (before ++ events) = (s.after before).after events :=
  List.foldl_append

/-! ## One event -/

/-- A call is accepted with the rule that it asks for, by a registry that is not
frozen. -/
theorem call_eq_ok {b b' : Builder} {g : Group} {call : AccessCall}
    {rule : Rule} (h : b.call g call = .ok (rule, b')) :
    g.ruleOf b.settings call = .ok rule ∧ b.registry.isFrozen = false ∧
      b' = { b with
        registry :=
          { b.registry with rules := b.registry.rules ++ [rule] } } := by
  rw [Builder.call, Outcome.bind_eq_ok_iff] at h
  obtain ⟨r, hr, h⟩ := h
  obtain ⟨⟨built, registry⟩, hregister, h⟩ := Outcome.bind_eq_ok_iff.mp h
  simp only [Except.ok.injEq, Prod.mk.injEq] at h
  obtain ⟨rfl, rfl⟩ := h
  obtain ⟨hfrozen, hrule, rfl⟩ := Registry.register_eq_ok_iff.mp hregister
  refine ⟨?_, hfrozen, rfl⟩
  have hmake : Rule.make g.patterns [.requirement r] = .ok built := hrule
  have hbuilt : built = ⟨g.patterns, [.requirement r]⟩ := by
    rw [Rule.make] at hmake
    split at hmake
    · cases hmake
    · rw [if_neg (List.cons_ne_nil _ _)] at hmake
      split at hmake
      · cases hmake
      · exact (Except.ok.inj hmake).symm
  rw [Group.ruleOf, hr, hbuilt]
  rfl

/-- A source has the entries of the table that its creation has compiled. -/
theorem entries_of_createSource {b : Builder} {source : Source}
    (h : b.createSource.value.1 = .ok (some source)) :
    ∃ t, b.registry.tryCompile.value.1 = .ok t ∧
      source.entries = t.entries := by
  simp only [Builder.createSource, Logged.andThen] at h
  split at h
  · cases h
  · rename_i t ht
    refine ⟨t, ht, ?_⟩
    rw [Source.build] at h
    split at h
    · cases h
    · split at h
      · cases h
        rfl
      · cases h

theorem builder_createSource (b : Builder) :
    b.createSource.value.2 =
      { b with registry := b.registry.tryCompile.value.2 } := by
  simp only [Builder.createSource, Logged.andThen]
  split
  · rfl
  · rfl

/-- What an event makes of a session. -/
inductive Changes (s : Session) : Event → Session → Prop
  | opened {opening : Opening} {g : Group}
      (hopened : opening.group s.builder.settings = .ok g) :
      Changes s (.act (.openGroup opening)) { s with groups := s.groups ++ [g] }
  | registered {e : Event} {g : Group} {call : AccessCall} {rule : Rule}
      (haccepted : s.accepted? e = some (g, call))
      (hopened : e.opened? s.builder.settings = none)
      (hrule : g.ruleOf s.builder.settings call = .ok rule)
      (hfrozen : s.builder.registry.isFrozen = false) :
      Changes s e { s with builder := { s.builder with
        registry := { s.builder.registry with
          rules := s.builder.registry.rules ++ [rule] } } }
  | installed (handler : Handler) :
      Changes s (.act (.install handler))
        { s with builder := s.builder.withHandler handler }
  | compiled {sources : List Source}
      (hsources : ∀ source ∈ sources, source ∈ s.sources ∨
        ∃ t, s.builder.registry.tryCompile.value.1 = .ok t ∧
          source.entries = t.entries) :
      Changes s (.act .createSource)
        { s with
          builder := { s.builder with
            registry := s.builder.registry.tryCompile.value.2 }
          sources }
  | nothing {e : Event} (haccepted : s.accepted? e = none)
      (hopened : e.opened? s.builder.settings = none) :
      Changes s e s

theorem changes_openGroup (s : Session) (opening : Opening) :
    s.Changes (.act (.openGroup opening)) (s.openGroup opening).2 := by
  cases hgroup : opening.group s.builder.settings with
  | ok g =>
    rw [openGroup, hgroup]
    exact .opened hgroup
  | error f =>
    rw [openGroup, hgroup]
    refine .nothing rfl ?_
    rw [Event.opened?, hgroup]
    rfl

theorem access_of_call_eq_ok {s : Session} {group : Nat} {g : Group}
    {call : AccessCall} {rule : Rule} {builder : Builder}
    (hgroup : s.groups[group]? = some g)
    (hcall : s.builder.call g call = .ok (rule, builder)) :
    s.access group call = (.ok (), { s with builder }) := by
  simp only [access, hgroup, hcall]

theorem changes_access (s : Session) (group : Nat) (call : AccessCall) :
    s.Changes (.act (.access group call)) (s.access group call).2 := by
  cases hgroup : s.groups[group]? with
  | none =>
    have haccepted : s.accepted? (.act (.access group call)) = none := by
      simp [accepted?, hgroup]
    rw [access, hgroup]
    exact .nothing haccepted rfl
  | some g =>
    cases hcall : s.builder.call g call with
    | error f =>
      have haccess : s.access group call = (.error f, s) := by
        simp [access, hgroup, hcall]
      have haccepted : s.accepted? (.act (.access group call)) = none := by
        simp [accepted?, hgroup, haccess]
      rw [haccess]
      exact .nothing haccepted rfl
    | ok called =>
      obtain ⟨rule, builder⟩ := called
      obtain ⟨hrule, hfrozen, rfl⟩ := call_eq_ok hcall
      have haccess := access_of_call_eq_ok hgroup hcall
      have haccepted : s.accepted? (.act (.access group call)) =
          some (g, call) := by
        simp [accepted?, hgroup, haccess]
      rw [haccess]
      exact .registered haccepted rfl hrule hfrozen

theorem builder_perform_createSource (s : Session) :
    (s.perform (.act .createSource)).2.builder =
      { s.builder with registry := s.builder.registry.tryCompile.value.2 } := by
  change s.createSource.2.builder = _
  rw [← builder_createSource]
  simp only [createSource]
  split
  · rfl
  · rfl
  · rfl

theorem changes_createSource (s : Session) :
    s.Changes (.act .createSource) s.createSource.2 := by
  have hbuilder := builder_createSource s.builder
  cases hbuilt : s.builder.createSource.value.1 with
  | error f =>
    simp only [createSource, hbuilt, hbuilder]
    exact .compiled fun source hsource => Or.inl hsource
  | ok built =>
    cases built with
    | none =>
      simp only [createSource, hbuilt, hbuilder]
      exact .compiled fun source hsource => Or.inl hsource
    | some created =>
      simp only [createSource, hbuilt, hbuilder]
      refine .compiled fun source hsource => ?_
      rcases List.mem_append.mp hsource with hsource | hsource
      · exact Or.inl hsource
      · obtain rfl := List.mem_singleton.mp hsource
        exact Or.inr (entries_of_createSource hbuilt)

/-- Every event changes a session in one of these ways. -/
theorem changes_perform (s : Session) (e : Event) :
    s.Changes e (s.perform e).2 := by
  cases e with
  | act a =>
    cases a with
    | openGroup opening => exact changes_openGroup s opening
    | access group call => exact changes_access s group call
    | install handler => exact .installed handler
    | createSource => exact changes_createSource s
  | lookup source r =>
    rw [perform]
    split
    · exact .nothing rfl rfl
    · exact .nothing rfl rfl
  | decide m source c =>
    rw [perform]
    split
    · exact .nothing rfl rfl
    · exact .nothing rfl rfl

/-- The registry is frozen with a table that has the entries of all sources. -/
def SourcesAgree (s : Session) : Prop :=
  ∀ source ∈ s.sources, ∃ t, s.builder.registry.table = some t ∧
    source.entries = t.entries

namespace Changes

variable {s s' : Session} {e : Event}

theorem settings_eq (h : s.Changes e s') :
    s'.builder.settings = s.builder.settings := by
  cases h with
  | _ => rfl

theorem groups_eq (h : s.Changes e s') :
    s'.groups = s.groups ++ (e.opened? s.builder.settings).toList := by
  cases h with
  | opened hopened =>
    rw [Event.opened?, hopened]
    rfl
  | registered _ hopened | nothing _ hopened => simp [hopened]
  | installed _ | compiled _ => simp [Event.opened?]

/-- The rules after an event are those before it, and the rule of the call that
was accepted. -/
theorem rules_eq (h : s.Changes e s') :
    s'.builder.registry.rules.map .ok =
      s.builder.registry.rules.map .ok ++
        (s.accepted? e).toList.map fun (g, call) =>
          g.ruleOf s.builder.settings call := by
  cases h with
  | opened _ | installed _ => simp [accepted?, Builder.withHandler]
  | registered haccepted _ hrule _ => simp [haccepted, hrule]
  | compiled _ => simp [accepted?, Registry.rules_tryCompile]
  | nothing haccepted _ => simp [haccepted]

/-- No event changes a frozen registry. -/
theorem registry_eq_of_frozen {t : LookupTable} (h : s.Changes e s')
    (ht : s.builder.registry.table = some t) :
    s'.builder.registry = s.builder.registry := by
  cases h with
  | opened _ | installed _ | nothing _ _ => rfl
  | registered _ _ _ hfrozen =>
    rw [Registry.isFrozen, ht] at hfrozen
    cases hfrozen
  | compiled _ => rw [Registry.tryCompile_of_frozen ht]

/-- A registry becomes frozen only by the creation of a source whose compilation
succeeds. -/
theorem eq_createSource_of_isFrozen (h : s.Changes e s')
    (hs : s.builder.registry.isFrozen = false)
    (hs' : s'.builder.registry.isFrozen = true) :
    e = .act .createSource ∧
      ∃ t, s.builder.registry.tryCompile.value.1 = .ok t := by
  cases h with
  | opened _ | registered _ _ _ _ | installed _ | nothing _ _ =>
    exact absurd (hs.symm.trans hs') Bool.false_ne_true
  | compiled _ =>
    exact ⟨rfl, (Registry.compiles_of_isFrozen_step (a := .compile) hs hs').2⟩

/-- The sources go on having the entries of the table that the registry is
frozen with. -/
theorem sourcesAgree (h : s.Changes e s') (hs : s.SourcesAgree) :
    s'.SourcesAgree := by
  intro source hsource
  cases h with
  | opened _ | installed _ | nothing _ _ => exact hs source hsource
  | registered _ _ _ hfrozen =>
    obtain ⟨t, ht, -⟩ := hs source hsource
    rw [Registry.isFrozen, ht] at hfrozen
    cases hfrozen
  | compiled hsources =>
    rcases hsources source hsource with hsource | ⟨t, hcompiled, hentries⟩
    · obtain ⟨t, ht, hentries⟩ := hs source hsource
      refine ⟨t, ?_, hentries⟩
      simpa only [Registry.tryCompile_of_frozen ht] using ht
    · exact ⟨t, Registry.table_of_tryCompile hcompiled, hentries⟩

end Changes

theorem builder_perform_openGroup (s : Session) (opening : Opening) :
    (s.perform (.act (.openGroup opening))).2.builder = s.builder := by
  change (s.openGroup opening).2.builder = s.builder
  rw [openGroup]
  split
  · rfl
  · rfl

/-- An access call that fails changes nothing. -/
theorem perform_access_of_error {s : Session} {group : Nat} {call : AccessCall}
    {f : Fault} (h : (s.perform (.act (.access group call))).1 = .error f) :
    (s.perform (.act (.access group call))).2 = s := by
  have hfails : (s.access group call).1 = .error f :=
    Outcome.map_eq_error_iff.mp h
  change (s.access group call).2 = s
  cases hgroup : s.groups[group]? with
  | none => rw [access, hgroup]
  | some g =>
    cases hcall : s.builder.call g call with
    | error f => simp [access, hgroup, hcall]
    | ok called =>
      rw [access_of_call_eq_ok hgroup hcall] at hfails
      cases hfails

/-! ## All events -/

theorem settings_after (s : Session) (events : List Event) :
    (s.after events).builder.settings = s.builder.settings := by
  induction events generalizing s with
  | nil => rfl
  | cons e events ih =>
    rw [after_cons, ih, (changes_perform s e).settings_eq]

/-- The groups are those that were opened, in order. -/
theorem groups_after (s : Session) (events : List Event) :
    (s.after events).groups =
      s.groups ++ events.filterMap (Event.opened? s.builder.settings) := by
  induction events generalizing s with
  | nil => simp [after]
  | cons e events ih =>
    have hchanges := changes_perform s e
    rw [after_cons, ih, hchanges.groups_eq, hchanges.settings_eq,
      List.filterMap_cons]
    cases e.opened? s.builder.settings with
    | none => simp
    | some g => simp

/-- The rules are those that the accepted calls ask for, in order. -/
theorem rules_after (s : Session) (events : List Event) :
    (s.after events).builder.registry.rules.map .ok =
      s.builder.registry.rules.map .ok ++
        (s.accepted events).map fun (g, call) =>
          g.ruleOf s.builder.settings call := by
  induction events generalizing s with
  | nil => simp [after, accepted]
  | cons e events ih =>
    have hchanges := changes_perform s e
    rw [after_cons, ih, hchanges.rules_eq, hchanges.settings_eq, accepted,
      List.map_append, List.append_assoc]

theorem registry_after_of_frozen {s : Session} {t : LookupTable}
    (ht : s.builder.registry.table = some t) (events : List Event) :
    (s.after events).builder.registry = s.builder.registry := by
  induction events generalizing s with
  | nil => rfl
  | cons e events ih =>
    have hregistry := (changes_perform s e).registry_eq_of_frozen ht
    rw [after_cons, ih (hregistry ▸ ht), hregistry]

theorem sourcesAgree_after {s : Session} (hs : s.SourcesAgree)
    (events : List Event) :
    (s.after events).SourcesAgree := by
  induction events generalizing s with
  | nil => exact hs
  | cons e events ih => exact ih ((changes_perform s e).sourcesAgree hs)

/-- A session whose registry is frozen has a first creation of a source whose
compilation succeeds. -/
theorem exists_createSource_of_isFrozen {s : Session} {events : List Event}
    (hs : s.builder.registry.isFrozen = false)
    (h : (s.after events).builder.registry.isFrozen = true) :
    ∃ before later t, events = before ++ .act .createSource :: later ∧
      (s.after before).builder.registry.isFrozen = false ∧
      (s.after before).builder.registry.tryCompile.value.1 = .ok t := by
  induction events generalizing s with
  | nil => exact absurd (hs.symm.trans h) Bool.false_ne_true
  | cons e events ih =>
    by_cases hstep : (s.perform e).2.builder.registry.isFrozen = true
    · obtain ⟨rfl, t, ht⟩ :=
        (changes_perform s e).eq_createSource_of_isFrozen hs hstep
      exact ⟨[], events, t, rfl, hs, ht⟩
    · obtain ⟨before, later, t, rfl, hbefore, ht⟩ :=
        ih (Bool.eq_false_iff.mpr hstep) h
      exact ⟨e :: before, later, t, rfl, hbefore, ht⟩

/-- After the first compilation that succeeds the registry has the rules and the
table of that moment, whether or not a source was created. -/
theorem registry_after_createSource {s : Session} {before later : List Event}
    {t : LookupTable}
    (hbefore : (s.after before).builder.registry.isFrozen = false)
    (ht : (s.after before).builder.registry.tryCompile.value.1 = .ok t) :
    (s.after (before ++ .act .createSource :: later)).builder.registry =
      { (s.after before).builder.registry with table := some t } := by
  have hcreated : ((s.after before).perform
      (.act .createSource)).2.builder.registry =
        { (s.after before).builder.registry with table := some t } := by
    rw [builder_perform_createSource]
    exact (Registry.tryCompile_of_not_frozen hbefore ht).2
  rw [after_append, after_cons,
    registry_after_of_frozen (t := t) (by rw [hcreated]), hcreated]

/-- Sources that share a table find the same for every request. -/
theorem SourcesAgree.lookup_eq {s : Session} (hs : s.SourcesAgree)
    {source other : Source} (hsource : source ∈ s.sources)
    (hother : other ∈ s.sources) (r : Request) :
    source.lookup r = other.lookup r := by
  obtain ⟨t, ht, hentries⟩ := hs source hsource
  obtain ⟨t', ht', hentries'⟩ := hs other hother
  obtain rfl : t = t' := Option.some.inj (ht.symm.trans ht')
  have hsame : source.entries = other.entries := hentries.trans hentries'.symm
  simp only [Source.lookup, Source.entryFor?, hsame]

/-- After any events the settings are those of the start, the groups are those
that were opened, and the rules are those that the accepted access calls asked
for, in order: one requirement for all patterns of the group.  Opening a group,
also where this fails, and an access call that fails leave the registry as it
was.  A registry is frozen if and only if the creation of a source has compiled
it with success.  From the first such compilation on, whether or not a source
came out of it, the rules and their table stay the same; and whatever handlers
were installed, all sources find the same for every request. -/
theorem registry_after_events (settings : Settings) (events : List Event) :
    let s := (start settings).after events
    s.builder.settings = settings ∧
    s.groups = events.filterMap (Event.opened? settings) ∧
    s.builder.registry.rules.map .ok =
      ((start settings).accepted events).map (fun (g, call) =>
        g.ruleOf settings call) ∧
    (∀ opening, (s.perform (.act (.openGroup opening))).2.builder = s.builder) ∧
    (∀ group call f, (s.perform (.act (.access group call))).1 = .error f →
      (s.perform (.act (.access group call))).2 = s) ∧
    (s.builder.registry.isFrozen = true ↔
      ∃ before later t, events = before ++ .act .createSource :: later ∧
        ((start settings).after before).builder.registry.isFrozen = false ∧
        ((start settings).after before).builder.registry.tryCompile.value.1 =
          .ok t) ∧
    (∀ before later t, events = before ++ .act .createSource :: later →
      ((start settings).after before).builder.registry.isFrozen = false →
      ((start settings).after before).builder.registry.tryCompile.value.1 =
        .ok t →
      let rules := ((start settings).after before).builder.registry.rules
      t = (LookupTable.ofEntries (rules.flatMap Rule.registrations)).value ∧
        s.builder.registry = ⟨rules, some t⟩) ∧
    ∀ source ∈ s.sources, ∀ other ∈ s.sources, ∀ r,
      source.lookup r = other.lookup r := by
  intro s
  have hgroups : s.groups = events.filterMap (Event.opened? settings) :=
    groups_after _ _
  have hrules : s.builder.registry.rules.map .ok =
      ((start settings).accepted events).map (fun (g, call) =>
        g.ruleOf settings call) :=
    rules_after _ _
  have hlast : ∀ before later t,
      events = before ++ .act .createSource :: later →
      ((start settings).after before).builder.registry.isFrozen = false →
      ((start settings).after before).builder.registry.tryCompile.value.1 =
        .ok t →
      s.builder.registry =
        { ((start settings).after before).builder.registry with
          table := some t } := by
    rintro before later t rfl hbefore ht
    exact registry_after_createSource hbefore ht
  have hagree : s.SourcesAgree := by
    apply sourcesAgree_after
    intro source hsource
    cases hsource
  refine ⟨settings_after _ _, hgroups, hrules, builder_perform_openGroup s,
    fun group call f => perform_access_of_error, ?_, ?_, ?_⟩
  · constructor
    · exact exists_createSource_of_isFrozen rfl
    · rintro ⟨before, later, t, hsplit, hbefore, ht⟩
      rw [hlast before later t hsplit hbefore ht]
      rfl
  · intro before later t hsplit hbefore ht rules
    exact ⟨(Registry.tryCompile_of_not_frozen hbefore ht).1,
      hlast before later t hsplit hbefore ht⟩
  · intro source hsource other hother r
    exact hagree.lookup_eq hsource hother r

/-- An expression with an unknown name is refused only after the registry was
frozen. -/
example :
    let s := (start .standard).after
      [.act (.openGroup (.ant ["/a"] none)), .act (.access 0 (.access "nope")),
        .act .createSource]
    s.sources.length = 0 ∧
      s.builder.registry.rules =
        [⟨[.ant ⟨"/a", none, true⟩], [.requirement (.raw "nope")]⟩] ∧
      (s.perform (.act (.access 0 (.plain .permitAll)))).1 =
        .error (.frozenRegistry 1) := by
  decide +kernel

end Session

end AccessRules
