import AccessRules.Proofs.Outcome
import AccessRules.Proofs.Rule.Reflection
import AccessRules.Rule.Source

/-!
# Which registration governs a request

Rules are registered one after the other.  Each of them registers its attributes
under all its patterns, so a run of registrations is one list of patterns with
attributes.

The table of the registry reflects this list.  Hence a request is governed by
the pattern that was the first one registered among those that select it, with
the attributes that were the last ones registered under that pattern.
-/

namespace AccessRules

/-- What a rule registers: its attributes under each of its patterns. -/
def Rule.registrations (r : Rule) : List (Matcher × List Attribute) :=
  r.patterns.map fun m => (m, r.attributes)

namespace Registry

/-- Registers rules one after the other, all of which must be accepted. -/
def registerAll (r : Registry) :
    List (Batch Matcher × Batch Attribute) → Except Fault (List Rule × Registry)
  | [] => .ok ([], r)
  | (patterns, attributes) :: calls => do
    let (rule, r) ← r.register patterns attributes
    let (rules, r) ← registerAll r calls
    .ok (rule :: rules, r)

/-! ## Runs of registrations -/

/-- A registration adds one rule to a registry that was not compiled. -/
theorem register_eq_ok_iff {r r' : Registry} {patterns : Batch Matcher}
    {attributes : Batch Attribute} {rule : Rule} :
    r.register patterns attributes = .ok (rule, r') ↔
      r.isFrozen = false ∧ ruleOf patterns attributes = .ok rule ∧
        r' = { r with rules := r.rules ++ [rule] } := by
  rw [register]
  cases hfrozen : r.isFrozen with
  | true => simp
  | false =>
    cases ruleOf patterns attributes with
    | error f => simp [Except.map]
    | ok built =>
      simp only [Bool.false_eq_true, ↓reduceIte, Except.map, Except.ok.injEq,
        Prod.mk.injEq, true_and]
      constructor
      · rintro ⟨rfl, rfl⟩
        exact ⟨rfl, rfl⟩
      · rintro ⟨rfl, rfl⟩
        exact ⟨rfl, rfl⟩

/-- A run of registrations adds its rules in order. -/
theorem registerAll_eq {r r' : Registry}
    {calls : List (Batch Matcher × Batch Attribute)} {rules : List Rule}
    (h : r.registerAll calls = .ok (rules, r')) :
    r' = { r with rules := r.rules ++ rules } := by
  induction calls generalizing r rules with
  | nil =>
    simp only [registerAll, Except.ok.injEq, Prod.mk.injEq] at h
    obtain ⟨rfl, rfl⟩ := h
    simp
  | cons call calls ih =>
    rw [registerAll] at h
    obtain ⟨⟨rule, next⟩, hfirst, h⟩ := Outcome.bind_eq_ok_iff.mp h
    obtain ⟨⟨others, last⟩, hrest, h⟩ := Outcome.bind_eq_ok_iff.mp h
    simp only [Except.ok.injEq, Prod.mk.injEq] at h
    obtain ⟨rfl, rfl⟩ := h
    obtain ⟨-, -, hnext⟩ := register_eq_ok_iff.mp hfirst
    rw [ih hrest, hnext, List.append_assoc, List.singleton_append]

/-- The table of a registry that was filled by registrations alone. -/
theorem compile_of_registerAll {r : Registry}
    {calls : List (Batch Matcher × Batch Attribute)} {rules : List Rule}
    (h : empty.registerAll calls = .ok (rules, r)) :
    r.compile.value.1 =
      (LookupTable.ofEntries (rules.flatMap Rule.registrations)).value := by
  rw [registerAll_eq h]
  rfl

end Registry

namespace LookupTable.Reflects

variable {t : LookupTable} {registrations : List (Matcher × List Attribute)}

/-! ## Lookups -/

/-- The answer to a request that is selected by a pattern, but by none of those
registered before it. -/
theorem lookup_eq_some {earlier later : List (Matcher × List Attribute)}
    {m : Matcher} {as : List Attribute} (handler : Handler) {request : Request}
    (h : t.Reflects (earlier ++ (m, as) :: later))
    (hearlier : ∀ e ∈ earlier, e.1.selects request = false)
    (hm : m.selects request = true) :
    ∃ last, (Source.lookup ⟨t.entries, handler⟩ request).value = some last ∧
      LastRegistered (earlier ++ (m, as) :: later) m last := by
  obtain ⟨last, hfind, hlast⟩ :=
    h.find?_eq_some (p := Matcher.selects request) hearlier hm
  refine ⟨last, ?_, hlast⟩
  simp only [Source.lookup, Source.entryFor?]
  rw [hfind]
  rfl

theorem lookup_eq_none_iff (handler : Handler) (request : Request)
    (h : t.Reflects registrations) :
    (Source.lookup ⟨t.entries, handler⟩ request).value = none ↔
      ∀ e ∈ registrations, e.1.selects request = false := by
  rw [← h.find?_eq_none_iff (p := Matcher.selects request)]
  simp only [Source.lookup, Source.entryFor?, Option.map_eq_none_iff]

end LookupTable.Reflects

/-- Where no pattern is registered twice, the first rule with a pattern that
selects the request governs it, whatever the rules behind it are. -/
theorem lookup_eq_attributes_of_nodup {t : LookupTable}
    {before after : List Rule} {r : Rule} (handler : Handler)
    {request : Request}
    (h : t.Reflects ((before ++ r :: after).flatMap Rule.registrations))
    (hnodup : (((before ++ r :: after).flatMap Rule.registrations).map
      Prod.fst).Nodup)
    (hbefore : ∀ b ∈ before, ∀ m ∈ b.patterns, m.selects request = false)
    (hr : ∃ m ∈ r.patterns, m.selects request = true) :
    (Source.lookup ⟨t.entries, handler⟩ request).value = some r.attributes := by
  obtain ⟨firsts, m, others, hpatterns, hfirsts, hm⟩ := Outcome.exists_first hr
  have hsplit : (before ++ r :: after).flatMap Rule.registrations =
      (before.flatMap Rule.registrations ++
          firsts.map fun n => (n, r.attributes)) ++
        (m, r.attributes) :: ((others.map fun n => (n, r.attributes)) ++
          after.flatMap Rule.registrations) := by
    simp [Rule.registrations, hpatterns]
  rw [hsplit] at h hnodup
  have hearlier : ∀ e ∈ before.flatMap Rule.registrations ++
      firsts.map (fun n => (n, r.attributes)),
      e.1.selects request = false := by
    intro e he
    rcases List.mem_append.mp he with he | he
    · obtain ⟨b, hb, heb⟩ := List.mem_flatMap.mp he
      obtain ⟨n, hn, rfl⟩ := List.mem_map.mp heb
      exact hbefore b hb n hn
    · obtain ⟨n, hn, rfl⟩ := List.mem_map.mp he
      exact hfirsts n hn
  obtain ⟨last, hlookup, hlast⟩ := h.lookup_eq_some handler hearlier hm
  have hregistered : (m, r.attributes) ∈
      (before.flatMap Rule.registrations ++
          firsts.map fun n => (n, r.attributes)) ++
        (m, r.attributes) :: ((others.map fun n => (n, r.attributes)) ++
          after.flatMap Rule.registrations) :=
    List.mem_append_right _ List.mem_cons_self
  rw [hlookup, hlast.eq_of_nodup hnodup hregistered]

/-! ## The table of a run of registrations -/

/-- Whatever rules are registered, the last attributes under a pattern guard a
request, unless a pattern that was registered before it selects the request. -/
def Matcher.Governs (m : Matcher) (request : Request) : Prop :=
  ∀ (calls : List (Batch Matcher × Batch Attribute)) (rules : List Rule)
    (registry : Registry) (handler : Handler)
    (earlier : List (Matcher × List Attribute)) (attributes : List Attribute)
    (later : List (Matcher × List Attribute)),
    Registry.empty.registerAll calls = .ok (rules, registry) →
    rules.flatMap Rule.registrations = earlier ++ (m, attributes) :: later →
    (∀ e ∈ earlier, e.1.selects request = false) →
    ∃ last, (Source.lookup ⟨registry.compile.value.1.entries, handler⟩
        request).value = some last ∧
      LastRegistered (rules.flatMap Rule.registrations) m last

theorem Matcher.governs_of_selects {m : Matcher} {request : Request}
    (hm : m.selects request = true) : m.Governs request := by
  intro calls rules registry handler earlier attributes later hcalls hrules
    hearlier
  have hreflects : registry.compile.value.1.Reflects
      (rules.flatMap Rule.registrations) := by
    rw [Registry.compile_of_registerAll hcalls]
    exact LookupTable.reflects_ofEntries _
  rw [hrules] at hreflects ⊢
  exact hreflects.lookup_eq_some handler hearlier hm

/-- After any run of registrations the table of the registry has each pattern
once, in the place of its first registration and with the attributes of its last
one.  A request gets the last attributes of the pattern that was the first one
registered among those that select it, and nothing exactly if there is no such
pattern; without repeated patterns these are the attributes of the first rule
that selects it. -/
theorem lookup_of_registerAll {calls : List (Batch Matcher × Batch Attribute)}
    {rules : List Rule} {r : Registry}
    (h : Registry.empty.registerAll calls = .ok (rules, r))
    (handler : Handler) :
    let registrations := rules.flatMap Rule.registrations
    let table := r.compile.value.1
    table.Reflects registrations ∧
      ∀ request,
        let answer := (Source.lookup ⟨table.entries, handler⟩ request).value
        (∀ earlier m as later, registrations = earlier ++ (m, as) :: later →
          (∀ e ∈ earlier, e.1.selects request = false) →
          m.selects request = true →
          ∃ last, answer = some last ∧ LastRegistered registrations m last) ∧
        (answer = none ↔ ∀ e ∈ registrations, e.1.selects request = false) ∧
        ((registrations.map Prod.fst).Nodup →
          ∀ before rule after, rules = before ++ rule :: after →
            (∀ b ∈ before, ∀ m ∈ b.patterns, m.selects request = false) →
            (∃ m ∈ rule.patterns, m.selects request = true) →
            answer = some rule.attributes) := by
  intro registrations table
  have hreflects : table.Reflects registrations := by
    rw [show table = _ from Registry.compile_of_registerAll h]
    exact LookupTable.reflects_ofEntries registrations
  refine ⟨hreflects, fun request => ⟨?_, ?_, ?_⟩⟩
  · intro earlier m as later hsplit hearlier hm
    rw [hsplit] at hreflects ⊢
    exact hreflects.lookup_eq_some handler hearlier hm
  · exact hreflects.lookup_eq_none_iff handler request
  · rintro hnodup before rule after rfl hbefore hrule
    exact lookup_eq_attributes_of_nodup handler hreflects hnodup hbefore hrule

/-- A pattern that comes twice in the first rule and again in the second, whose
attribute is given as a text. -/
theorem lookup_of_registerAll_repeated :
    Registry.empty.registerAll
        [(.many [.any, .any], .many [.token "A"]),
          (.many [.any], .many [.other (.text "B")])] =
      .ok ([⟨[.any, .any], [.token "A"]⟩, ⟨[.any], [.token "B"]⟩],
        ⟨[⟨[.any, .any], [.token "A"]⟩, ⟨[.any], [.token "B"]⟩], none⟩) ∧
    (Registry.compile ⟨[⟨[.any, .any], [.token "A"]⟩,
        ⟨[.any], [.token "B"]⟩], none⟩).value.1.Reflects
      [(.any, [.token "A"]), (.any, [.token "A"]), (.any, [.token "B"])] := by
  have hrun : Registry.empty.registerAll
      [(.many [.any, .any], .many [.token "A"]),
        (.many [.any], .many [.other (.text "B")])] =
    .ok ([⟨[.any, .any], [.token "A"]⟩, ⟨[.any], [.token "B"]⟩],
      ⟨[⟨[.any, .any], [.token "A"]⟩, ⟨[.any], [.token "B"]⟩], none⟩) := rfl
  exact ⟨hrun, (lookup_of_registerAll hrun (.make .standard [])).1⟩

end AccessRules
