import AccessRules.Proofs.Rule.Governing

/-!
# The life of a registry

A program registers rules, reads them, compiles the registry and looks patterns
up in its table, in any order.  A registration that fails and a compilation that
fails leave the registry as it was.

Every step adds the rule that it answers with, or none.  The first compilation
that succeeds freezes the registry, and no step changes a frozen registry.
-/

namespace AccessRules

/-- What holds of every rule that was registered. -/
structure Rule.WellFormed (rule : Rule) : Prop where
  patterns_ne_nil : rule.patterns ≠ []
  attributes_ne_nil : rule.attributes ≠ []
  isMatcher : ∀ m ∈ rule.patterns, m.isMatcher = true
  isAttribute : ∀ a ∈ rule.attributes, a.isAttribute = true

namespace Registry

/-- What a program does with a registry. -/
inductive Action where
  | register (patterns : Batch Matcher) (attributes : Batch Attribute)
  | rules
  | compile
  | get (m : Matcher)

/-- Whether an action compiles the registry. -/
def Action.compiles : Action → Bool
  | compile | get _ => true
  | register .. | rules => false

/-- What a program is answered. -/
inductive Answer where
  | rule (rule : Rule)
  | rules (rules : List Rule)
  | table (table : LookupTable)
  | attributes (attributes : List Attribute)
deriving DecidableEq

/-- The rule that was registered, if there is one. -/
def registered? : Except Fault Answer → Option Rule
  | .ok (.rule rule) => some rule
  | _ => none

/-- The outcome of an action, and the registry after it. -/
def step (r : Registry) : Action → Except Fault Answer × Registry
  | .register patterns attributes =>
    match r.register patterns attributes with
    | .ok (rule, next) => (.ok (.rule rule), next)
    | .error f => (.error f, r)
  | .rules => (.ok (.rules r.rules), r)
  | .compile => (r.tryCompile.value.1.map .table, r.tryCompile.value.2)
  | .get m =>
    ((r.tryCompile.value.1.bind (·.get m)).map .attributes,
      r.tryCompile.value.2)

/-- The registry after some actions. -/
def run (r : Registry) (actions : List Action) : Registry :=
  actions.foldl (fun r a => (r.step a).2) r

/-- The outcomes of some actions. -/
def outcomes (r : Registry) : List Action → List (Except Fault Answer)
  | [] => []
  | a :: actions => (r.step a).1 :: (r.step a).2.outcomes actions

theorem run_append (r : Registry) (before after : List Action) :
    r.run (before ++ after) = (r.run before).run after :=
  List.foldl_append

/-! ## Well-formed rules -/

theorem isAttribute_of_normal {a b : Attribute} (h : a.normal = .ok b) :
    b.isAttribute = true := by
  cases a with
  | token s | requirement s =>
    cases h
    rfl
  | other v =>
    cases v with
    | text s =>
      by_cases hs : s = ""
      · simp [Attribute.normal, hs] at h
      · simp only [Attribute.normal, hs, if_false, Except.ok.injEq] at h
        rw [← h]
        rfl
    | _ => cases h

theorem wellFormed_of_make {patterns : List Matcher}
    {attributes : List Attribute} {rule : Rule}
    (hattributes : ∀ a ∈ attributes, a.isAttribute = true)
    (h : Rule.make patterns attributes = .ok rule) :
    rule.WellFormed := by
  rw [Rule.make] at h
  by_cases hpatterns : patterns = []
  · simp [hpatterns] at h
  · by_cases hnone : attributes = []
    · simp [hpatterns, hnone] at h
    · rw [if_neg hpatterns, if_neg hnone] at h
      cases hfind : patterns.find? (!·.isMatcher) with
      | some m => simp [hfind] at h
      | none =>
        rw [hfind, Except.ok.injEq] at h
        subst h
        refine ⟨hpatterns, hnone, ?_, hattributes⟩
        intro m hm
        simpa using List.find?_eq_none.mp hfind m hm

theorem wellFormed_of_ruleOf {patterns : Batch Matcher}
    {attributes : Batch Attribute} {rule : Rule}
    (h : ruleOf patterns attributes = .ok rule) :
    rule.WellFormed := by
  rw [ruleOf] at h
  obtain ⟨-, -, h⟩ := Outcome.bind_eq_ok_iff.mp h
  obtain ⟨ms, -, h⟩ := Outcome.bind_eq_ok_iff.mp h
  obtain ⟨given, -, h⟩ := Outcome.bind_eq_ok_iff.mp h
  obtain ⟨as, has, h⟩ := Outcome.bind_eq_ok_iff.mp h
  apply wellFormed_of_make _ h
  intro b hb
  obtain ⟨a, -, ha⟩ := Outcome.exists_of_mem_mapM has hb
  exact isAttribute_of_normal ha

/-! ## Compiling -/

/-- A compilation gives the table that the registry has, or builds one and keeps
it, or fails and changes nothing. -/
theorem tryCompile_cases (r : Registry) :
    (∃ t, r.table = some t ∧ r.tryCompile.value = (.ok t, r)) ∨
      r.table = none ∧
        (r.tryCompile.value =
            (.ok (LookupTable.ofEntries r.flatEntries).value,
              { r with
                table := some (LookupTable.ofEntries r.flatEntries).value }) ∨
          r.tryCompile.value = (.error .missingText, r)) := by
  cases htable : r.table with
  | some t =>
    left
    exact ⟨t, rfl, by
      simp [tryCompile, brokenOff?, isFrozen, compile, htable, Logged.quiet]⟩
  | none =>
    right
    refine ⟨rfl, ?_⟩
    cases hbroken : LookupTable.empty.brokenOff? r.flatEntries with
    | none =>
      left
      simp [tryCompile, brokenOff?, isFrozen, compile, htable, hbroken]
    | some records =>
      right
      simp [tryCompile, brokenOff?, isFrozen, htable, hbroken]

theorem rules_tryCompile (r : Registry) :
    r.tryCompile.value.2.rules = r.rules := by
  rcases r.tryCompile_cases with ⟨t, -, h⟩ | ⟨-, h | h⟩
  · rw [h]
  · rw [h]
  · rw [h]

/-! ## One step -/

theorem step_register_of_error {r : Registry} {patterns : Batch Matcher}
    {attributes : Batch Attribute} {f : Fault}
    (h : r.register patterns attributes = .error f) :
    r.step (.register patterns attributes) = (.error f, r) := by
  rw [step, h]

theorem step_register_of_ok {r next : Registry} {patterns : Batch Matcher}
    {attributes : Batch Attribute} {rule : Rule}
    (h : r.register patterns attributes = .ok (rule, next)) :
    r.step (.register patterns attributes) = (.ok (.rule rule), next) := by
  rw [step, h]

theorem step_of_compiles {r : Registry} {a : Action}
    (ha : a.compiles = true) :
    (r.step a).2 = r.tryCompile.value.2 := by
  cases a with
  | register _ _ | rules => cases ha
  | compile | get _ => rfl

theorem registered?_of_compiles {r : Registry} {a : Action}
    (ha : a.compiles = true) :
    registered? (r.step a).1 = none := by
  cases a with
  | register _ _ | rules => cases ha
  | compile =>
    rw [step]
    cases r.tryCompile.value.1 <;> rfl
  | get m =>
    rw [step]
    cases r.tryCompile.value.1.bind (·.get m) <;> rfl

/-- A step adds the rule that it answers with, or none. -/
theorem rules_step (r : Registry) (a : Action) :
    (r.step a).2.rules = r.rules ++ (registered? (r.step a).1).toList := by
  cases a with
  | register patterns attributes =>
    cases h : r.register patterns attributes with
    | error f => simp [step_register_of_error h, registered?]
    | ok registered =>
      obtain ⟨rule, next⟩ := registered
      obtain ⟨-, -, rfl⟩ := register_eq_ok_iff.mp h
      simp [step_register_of_ok h, registered?]
  | rules => simp [step, registered?]
  | compile | get _ =>
    rw [registered?_of_compiles rfl, step_of_compiles rfl, rules_tryCompile]
    simp

/-- A rule that a step answers with is well-formed. -/
theorem wellFormed_of_registered? {r : Registry} {a : Action} {rule : Rule}
    (h : registered? (r.step a).1 = some rule) :
    rule.WellFormed := by
  cases a with
  | register patterns attributes =>
    cases hregister : r.register patterns attributes with
    | error f => simp [step_register_of_error hregister, registered?] at h
    | ok registered =>
      obtain ⟨built, next⟩ := registered
      obtain ⟨-, hrule, -⟩ := register_eq_ok_iff.mp hregister
      rw [step_register_of_ok hregister] at h
      cases h
      exact wellFormed_of_ruleOf hrule
  | rules => cases h
  | compile | get _ =>
    rw [registered?_of_compiles rfl] at h
    cases h

/-- An action that fails leaves the registry as it was, unless it looks up a
pattern. -/
theorem step_of_error {r : Registry} {a : Action} {f : Fault}
    (ha : ∀ m, a ≠ .get m) (h : (r.step a).1 = .error f) :
    (r.step a).2 = r := by
  cases a with
  | register patterns attributes =>
    cases hregister : r.register patterns attributes with
    | error f => rw [step_register_of_error hregister]
    | ok registered =>
      rw [step_register_of_ok hregister] at h
      cases h
  | rules => rfl
  | compile =>
    rcases r.tryCompile_cases with ⟨t, -, hcompile⟩ | ⟨-, hcompile | hcompile⟩
    · rw [step, hcompile]
    · rw [step, hcompile] at h
      cases h
    · rw [step, hcompile]
  | get m => exact absurd rfl (ha m)

/-- Looking up a pattern is a compilation and a lookup in its table. -/
theorem step_get (r : Registry) (m : Matcher) :
    (r.step (.get m)).2 = (r.step .compile).2 ∧
      (∀ f, (r.step .compile).1 = .error f →
        (r.step (.get m)).1 = .error f) ∧
      ∀ t, (r.step .compile).1 = .ok (.table t) →
        (r.step (.get m)).1 = (t.get m).map .attributes := by
  refine ⟨rfl, ?_, ?_⟩
  · intro f hf
    have hcompiled := Outcome.map_eq_error_iff.mp hf
    rw [step, hcompiled]
    rfl
  · intro t ht
    obtain ⟨t', hcompiled, hsame⟩ := Outcome.map_eq_ok_iff.mp ht
    cases hsame
    rw [step, hcompiled]
    rfl

/-! ## Frozen registries -/

theorem isFrozen_eq_true_iff {r : Registry} :
    r.isFrozen = true ↔ ∃ t, r.table = some t :=
  Option.isSome_iff_exists

theorem tryCompile_of_frozen {r : Registry} {t : LookupTable}
    (ht : r.table = some t) :
    r.tryCompile.value = (.ok t, r) := by
  rcases r.tryCompile_cases with ⟨t', ht', h⟩ | ⟨hnone, -⟩
  · rw [ht, Option.some.injEq] at ht'
    rw [h, ht']
  · rw [ht] at hnone
    cases hnone

theorem step_register_of_frozen {r : Registry} (h : r.isFrozen = true)
    (patterns : Batch Matcher) (attributes : Batch Attribute) :
    r.step (.register patterns attributes) =
      (.error (.frozenRegistry r.rules.length), r) :=
  step_register_of_error (if_pos h)

/-- No step changes a frozen registry. -/
theorem step_of_frozen {r : Registry} {t : LookupTable}
    (ht : r.table = some t) (a : Action) :
    (r.step a).2 = r := by
  cases a with
  | register patterns attributes =>
    rw [step_register_of_frozen (isFrozen_eq_true_iff.mpr ⟨t, ht⟩)]
  | rules => rfl
  | compile | get _ => rw [step_of_compiles rfl, tryCompile_of_frozen ht]

theorem run_of_frozen {r : Registry} {t : LookupTable}
    (ht : r.table = some t) (actions : List Action) :
    r.run actions = r := by
  induction actions with
  | nil => rfl
  | cons a actions ih =>
    change ((r.step a).2).run actions = r
    rw [step_of_frozen ht, ih]

/-- A registry that is not frozen becomes frozen only by a compilation that
succeeds. -/
theorem compiles_of_isFrozen_step {r : Registry} {a : Action}
    (hr : r.isFrozen = false) (h : (r.step a).2.isFrozen = true) :
    a.compiles = true ∧ ∃ t, r.tryCompile.value.1 = .ok t := by
  cases a with
  | register patterns attributes =>
    cases hregister : r.register patterns attributes with
    | error f =>
      rw [step_register_of_error hregister, hr] at h
      cases h
    | ok registered =>
      obtain ⟨rule, next⟩ := registered
      obtain ⟨-, -, rfl⟩ := register_eq_ok_iff.mp hregister
      rw [step_register_of_ok hregister] at h
      exact absurd (hr.symm.trans h) (by decide)
  | rules => exact absurd (hr.symm.trans h) (by decide)
  | compile | get _ =>
    refine ⟨rfl, ?_⟩
    rcases r.tryCompile_cases with ⟨t, -, hcompile⟩ | ⟨-, hcompile | hcompile⟩
    · exact ⟨t, by rw [hcompile]⟩
    · exact ⟨_, by rw [hcompile]⟩
    · rw [step_of_compiles rfl, hcompile, hr] at h
      cases h

/-- A compilation of a registry that is not frozen keeps the table of the
rules. -/
theorem tryCompile_of_not_frozen {r : Registry} {t : LookupTable}
    (hr : r.isFrozen = false) (h : r.tryCompile.value.1 = .ok t) :
    t = (LookupTable.ofEntries (r.rules.flatMap Rule.registrations)).value ∧
      r.tryCompile.value.2 = { r with table := some t } := by
  rcases r.tryCompile_cases with ⟨t', ht', -⟩ | ⟨-, hcompile | hcompile⟩
  · rw [isFrozen, ht'] at hr
    cases hr
  · rw [hcompile, Except.ok.injEq] at h
    subst h
    exact ⟨rfl, by rw [hcompile]⟩
  · rw [hcompile] at h
    cases h

/-- A registry keeps the table that a compilation gives. -/
theorem table_of_tryCompile {r : Registry} {t : LookupTable}
    (h : r.tryCompile.value.1 = .ok t) :
    r.tryCompile.value.2.table = some t := by
  cases hr : r.isFrozen with
  | true =>
    obtain ⟨t', ht'⟩ := isFrozen_eq_true_iff.mp hr
    rw [tryCompile_of_frozen ht'] at h ⊢
    rw [ht', Except.ok.inj h]
  | false => rw [(tryCompile_of_not_frozen hr h).2]

/-! ## Runs -/

/-- The rules after some actions are the former ones and those that the actions
have answered with. -/
theorem rules_run (r : Registry) (actions : List Action) :
    (r.run actions).rules =
      r.rules ++ (r.outcomes actions).filterMap registered? := by
  induction actions generalizing r with
  | nil => simp [run, outcomes]
  | cons a actions ih =>
    change ((r.step a).2.run actions).rules = _
    rw [ih, rules_step, outcomes, List.filterMap_cons]
    cases registered? (r.step a).1 with
    | none => simp
    | some rule => simp

theorem wellFormed_of_mem_outcomes {r : Registry} {actions : List Action}
    {rule : Rule}
    (h : rule ∈ (r.outcomes actions).filterMap registered?) :
    rule.WellFormed := by
  induction actions generalizing r with
  | nil => cases h
  | cons a actions ih =>
    rw [outcomes, List.mem_filterMap] at h
    obtain ⟨outcome, hmem, hrule⟩ := h
    rcases List.mem_cons.mp hmem with rfl | hmem
    · exact wellFormed_of_registered? hrule
    · exact ih (List.mem_filterMap.mpr ⟨outcome, hmem, hrule⟩)

/-- A run that freezes a registry has a first compilation that succeeds. -/
theorem exists_compilation_of_isFrozen_run {r : Registry}
    {actions : List Action} (hr : r.isFrozen = false)
    (h : (r.run actions).isFrozen = true) :
    ∃ before a after t, actions = before ++ a :: after ∧
      a.compiles = true ∧ (r.run before).isFrozen = false ∧
      (r.run before).tryCompile.value.1 = .ok t := by
  induction actions generalizing r with
  | nil => exact absurd (hr.symm.trans h) (by decide)
  | cons a actions ih =>
    by_cases hstep : (r.step a).2.isFrozen = true
    · obtain ⟨ha, t, ht⟩ := compiles_of_isFrozen_step hr hstep
      exact ⟨[], a, actions, t, rfl, ha, hr, ht⟩
    · obtain ⟨before, b, after, t, rfl, hb, hbefore, ht⟩ :=
        ih (Bool.eq_false_iff.mpr hstep) h
      exact ⟨a :: before, b, after, t, rfl, hb, hbefore, ht⟩

/-- After its first compilation a registry has the rules and the table of that
moment. -/
theorem run_of_compilation {r : Registry} {before after : List Action}
    {a : Action} {t : LookupTable} (ha : a.compiles = true)
    (hbefore : (r.run before).isFrozen = false)
    (ht : (r.run before).tryCompile.value.1 = .ok t) :
    r.run (before ++ a :: after) = { r.run before with table := some t } := by
  have hstep : ((r.run before).step a).2 =
      { r.run before with table := some t } := by
    rw [step_of_compiles ha, (tryCompile_of_not_frozen hbefore ht).2]
  rw [run_append]
  change (((r.run before).step a).2).run after = _
  rw [hstep]
  exact run_of_frozen rfl after

/-- After any actions all rules are well-formed, and they are the rules that the
actions have registered, in order.  A further action adds the rule that it
registers, or none; one that fails changes nothing, except that looking up a
pattern compiles the registry first.  A registry is frozen if and only if a
compilation has succeeded.  From the first such compilation on its rules stay as
they were then, its table is the one built from them, nothing can be registered,
and every compilation gives this table. -/
theorem rules_and_table_of_run (actions : List Action) :
    let r := empty.run actions
    (∀ rule ∈ r.rules, rule.WellFormed) ∧
    r.rules = (empty.outcomes actions).filterMap registered? ∧
    (∀ a, (r.step a).2.rules =
      r.rules ++ (registered? (r.step a).1).toList) ∧
    (∀ a f, (∀ m, a ≠ .get m) → (r.step a).1 = .error f →
      (r.step a).2 = r) ∧
    (∀ m, (r.step (.get m)).2 = (r.step .compile).2 ∧
      (∀ f, (r.step .compile).1 = .error f →
        (r.step (.get m)).1 = .error f) ∧
      ∀ t, (r.step .compile).1 = .ok (.table t) →
        (r.step (.get m)).1 = (t.get m).map .attributes) ∧
    (r.isFrozen = true ↔ ∃ before a after t, actions = before ++ a :: after ∧
      a.compiles = true ∧ (empty.run before).isFrozen = false ∧
      (empty.run before).tryCompile.value.1 = .ok t) ∧
    ∀ before a after t, actions = before ++ a :: after →
      a.compiles = true → (empty.run before).isFrozen = false →
      (empty.run before).tryCompile.value.1 = .ok t →
        let rules := (empty.run before).rules
        t = (LookupTable.ofEntries (rules.flatMap Rule.registrations)).value ∧
        r = ⟨rules, some t⟩ ∧
        (∀ patterns attributes, r.step (.register patterns attributes) =
          (.error (.frozenRegistry rules.length), r)) ∧
        (Fault.frozenRegistry rules.length).report?.map (·.kind) =
          some .illegalState ∧
        r.step .compile = (.ok (.table t), r) := by
  intro r
  have hrules : r.rules = (empty.outcomes actions).filterMap registered? :=
    rules_run empty actions
  have hlast : ∀ before a after t, actions = before ++ a :: after →
      a.compiles = true → (empty.run before).isFrozen = false →
      (empty.run before).tryCompile.value.1 = .ok t →
      r = { empty.run before with table := some t } := by
    rintro before a after t rfl ha hbefore ht
    exact run_of_compilation ha hbefore ht
  refine ⟨?_, hrules, rules_step r, fun a f => step_of_error, step_get r,
    ?_, ?_⟩
  · intro rule hrule
    rw [hrules] at hrule
    exact wellFormed_of_mem_outcomes hrule
  · constructor
    · exact exists_compilation_of_isFrozen_run rfl
    · rintro ⟨before, a, after, t, hsplit, ha, hbefore, ht⟩
      rw [hlast before a after t hsplit ha hbefore ht]
      rfl
  · intro before a after t hsplit ha hbefore ht rules
    have hr : r = ⟨rules, some t⟩ := hlast before a after t hsplit ha hbefore ht
    have hfrozen : r.isFrozen = true := by
      rw [hr]
      rfl
    have htable : r.table = some t := by rw [hr]
    refine ⟨(tryCompile_of_not_frozen hbefore ht).1, hr, ?_, rfl, ?_⟩
    · intro patterns attributes
      rw [step_register_of_frozen hfrozen, hr]
    · rw [step, tryCompile_of_frozen htable]
      rfl

/-- Looking up an unknown pattern fails and freezes the registry all the
same. -/
example : empty.outcomes [.register (.many [.any]) (.many [.token "A"]),
    .get (.ant ⟨"/a", none, true⟩), .register (.many [.any]) (.many [])] =
    [.ok (.rule ⟨[.any], [.token "A"]⟩), .error .unknownPattern,
      .error (.frozenRegistry 1)] := by
  decide +kernel

/-- A registry that cannot be compiled is not frozen. -/
example : empty.outcomes [.register (.many [.any, .any])
      (.many [.requirement (.raw none)]), .compile,
    .register (.many []) (.many [.token "A"]), .rules] =
    [.ok (.rule ⟨[.any, .any], [.requirement (.raw none)]⟩),
      .error .missingText, .error .noPatterns,
      .ok (.rules [⟨[.any, .any], [.requirement (.raw none)]⟩])] := by
  decide +kernel

end Registry

end AccessRules
