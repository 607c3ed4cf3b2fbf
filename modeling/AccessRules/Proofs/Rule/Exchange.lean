import AccessRules.Proofs.Rule.Lifecycle
import Mathlib.Data.List.Count

/-!
# Rules that change places

A lookup sees only the registrations under patterns that select the request, in
their order.  So two rules that stand side by side can change places without an
effect on any request that is not selected by patterns of both of them.

Whether a registry can be compiled does not depend on the order at all.  Neither
does it matter for the validation of a table, unless the two rules have a
pattern in common: this pattern then selects none of those requests, but it is
given the attributes of the later one of the two.
-/

namespace AccessRules

variable {registrations others : List (Matcher × List Attribute)}

/-- The registrations under patterns with a property. -/
def registrationsWhere (p : Matcher → Bool)
    (registrations : List (Matcher × List Attribute)) :
    List (Matcher × List Attribute) :=
  registrations.filter fun e => p e.1

/-! ## Last registrations -/

namespace LastRegistered

variable {m : Matcher} {as bs : List Attribute}

theorem unique (h : LastRegistered registrations m as)
    (h' : LastRegistered registrations m bs) :
    as = bs := by
  obtain ⟨earlier, later, hsplit, hlater⟩ := h
  obtain ⟨earlier', later', hsplit', hlater'⟩ := h'
  rw [hsplit] at hsplit'
  -- whichever of the two occurrences stands behind the other one contradicts
  -- that the other one is the last
  rcases List.append_eq_append_iff.mp hsplit' with ⟨ds, -, hds⟩ | ⟨ds, -, hds⟩
  · cases ds with
    | nil => exact congrArg Prod.snd (List.cons.inj hds).1
    | cons d ds =>
      obtain ⟨-, rfl⟩ := List.cons.inj hds
      exact absurd (List.mem_map_of_mem (f := Prod.fst) (a := (m, bs))
        (List.mem_append_right ds List.mem_cons_self)) hlater
  · cases ds with
    | nil => exact (congrArg Prod.snd (List.cons.inj hds).1).symm
    | cons d ds =>
      obtain ⟨-, rfl⟩ := List.cons.inj hds
      exact absurd (List.mem_map_of_mem (f := Prod.fst) (a := (m, as))
        (List.mem_append_right ds List.mem_cons_self)) hlater'

theorem registrationsWhere {p : Matcher → Bool}
    (h : LastRegistered registrations m as) (hm : p m = true) :
    LastRegistered (registrationsWhere p registrations) m as := by
  obtain ⟨earlier, later, rfl, hlater⟩ := h
  refine ⟨AccessRules.registrationsWhere p earlier,
    AccessRules.registrationsWhere p later, ?_, ?_⟩
  · simp [AccessRules.registrationsWhere, hm]
  · intro hmem
    obtain ⟨e, he, rfl⟩ := List.mem_map.mp hmem
    exact hlater (List.mem_map_of_mem (List.mem_of_mem_filter he))

end LastRegistered

namespace LookupTable.Reflects

variable {t t' : LookupTable} {p : Matcher → Bool}

/-! ## Tables of registrations in another order -/

theorem exists_entry (h : t.Reflects registrations) {m : Matcher}
    {as : List Attribute} (hm : (m, as) ∈ registrations) :
    ∃ last, (m, last) ∈ t.entries := by
  have hkey : m ∈ t.keys := (h.mem_keys m).mpr (List.mem_map_of_mem hm)
  obtain ⟨⟨n, last⟩, hentry, rfl⟩ := List.mem_map.mp hkey
  exact ⟨last, hentry⟩

/-- Tables have the same entry under a pattern if the registrations under
patterns with a property that it has are the same. -/
theorem mem_entries_of_registrationsWhere (h : t.Reflects registrations)
    (h' : t'.Reflects others)
    (hsame : registrationsWhere p registrations = registrationsWhere p others)
    {m : Matcher} {as : List Attribute} (hm : p m = true)
    (hentry : (m, as) ∈ t.entries) :
    (m, as) ∈ t'.entries := by
  have hlast := (h.content m as hentry).registrationsWhere hm
  rw [hsame] at hlast
  obtain ⟨bs, hentry'⟩ := h'.exists_entry (List.mem_of_mem_filter hlast.mem)
  have hlast' := (h'.content m bs hentry').registrationsWhere hm
  rw [hlast.unique hlast']
  exact hentry'

/-- A search for a pattern with a property depends only on the registrations
under such patterns. -/
theorem find?_eq_of_registrationsWhere (h : t.Reflects registrations)
    (h' : t'.Reflects others)
    (hsame : registrationsWhere p registrations = registrationsWhere p others) :
    t.entries.find? (fun e => p e.1) = t'.entries.find? (fun e => p e.1) := by
  cases hfirst : registrationsWhere p registrations with
  | nil =>
    have hfirst' : registrationsWhere p others = [] := hsame.symm.trans hfirst
    have hnone : t.entries.find? (fun e => p e.1) = none := by
      rw [h.find?_eq_none_iff]
      simpa [registrationsWhere, List.filter_eq_nil_iff] using hfirst
    have hnone' : t'.entries.find? (fun e => p e.1) = none := by
      rw [h'.find?_eq_none_iff]
      simpa [registrationsWhere, List.filter_eq_nil_iff] using hfirst'
    rw [hnone, hnone']
  | cons e more =>
    obtain ⟨m, as⟩ := e
    have hfirst' : registrationsWhere p others = (m, as) :: more :=
      hsame.symm.trans hfirst
    obtain ⟨earlier, later, rfl, hearlier, hm, -⟩ :=
      List.filter_eq_cons_iff.mp hfirst
    obtain ⟨earlier', later', rfl, hearlier', -, -⟩ :=
      List.filter_eq_cons_iff.mp hfirst'
    obtain ⟨last, hfind, hlast⟩ := h.find?_eq_some (p := p)
      (by simpa using hearlier) hm
    obtain ⟨last', hfind', hlast'⟩ := h'.find?_eq_some (p := p)
      (by simpa using hearlier') hm
    have hwhere := hlast.registrationsWhere hm
    rw [hsame] at hwhere
    rw [hfind, hfind', hwhere.unique (hlast'.registrationsWhere hm)]

theorem get?_cases (h : t.Reflects registrations) (m : Matcher) :
    (t.get? m = none ∧ m ∉ registrations.map Prod.fst) ∨
      ∃ old, t.get? m = some old ∧ LastRegistered registrations m old := by
  cases hget : t.get? m with
  | none =>
    left
    exact ⟨rfl, mt (h.mem_keys m).mpr (get?_eq_none_iff.mp hget)⟩
  | some old =>
    right
    obtain ⟨before, after, hsplit, -⟩ := List.lookup_eq_some_iff.mp hget
    exact ⟨old, rfl, h.content m old (by simp [hsplit])⟩

end LookupTable.Reflects

/-! ## Tables that can be reported -/

/-- All attributes that are registered under repeated patterns have texts. -/
def IsReportable (registrations : List (Matcher × List Attribute)) : Prop :=
  ∀ m as, (m, as) ∈ registrations →
    1 < (registrations.map Prod.fst).count m → as.all (·.hasText) = true

theorem IsReportable.perm (h : IsReportable registrations)
    (hperm : registrations.Perm others) :
    IsReportable others := by
  intro m as hm hcount
  rw [← (hperm.map Prod.fst).count_eq] at hcount
  exact h m as (hperm.mem_iff.mpr hm) hcount

theorem IsReportable.of_append {more : List (Matcher × List Attribute)}
    (h : IsReportable (registrations ++ more)) :
    IsReportable registrations := by
  intro m as hm hcount
  refine h m as (List.mem_append_left _ hm) ?_
  rw [List.map_append, List.count_append]
  omega

/-- A pattern that is not repeated has only its last registration. -/
theorem LastRegistered.eq_of_count_le {m : Matcher} {as bs : List Attribute}
    (h : LastRegistered registrations m as)
    (hcount : (registrations.map Prod.fst).count m ≤ 1)
    (hm : (m, bs) ∈ registrations) :
    bs = as := by
  obtain ⟨earlier, later, rfl, hlater⟩ := h
  have hearlier : m ∉ earlier.map Prod.fst := by
    rw [← List.count_eq_zero]
    simp only [List.map_append, List.map_cons, List.count_append,
      List.count_cons_self] at hcount
    omega
  rcases List.mem_append.mp hm with hm | hm
  · exact absurd (List.mem_map_of_mem hm) hearlier
  · rcases List.mem_cons.mp hm with hm | hm
    · exact congrArg Prod.snd hm
    · exact absurd (List.mem_map_of_mem hm) hlater

namespace LookupTable.Reflects

variable {t : LookupTable}

/-- One more registration can be reported if all attributes under its pattern
have texts, should it be repeated. -/
theorem isReportable_iff (h : t.Reflects registrations)
    (hall : IsReportable registrations) (m : Matcher) (as : List Attribute) :
    t.isReportable m as = true ↔ IsReportable (registrations ++ [(m, as)]) := by
  rcases h.get?_cases m with ⟨hget, hm⟩ | ⟨old, hget, hlast⟩
  · have hzero : (registrations.map Prod.fst).count m = 0 :=
      List.count_eq_zero.mpr hm
    simp only [isReportable, hget, true_iff]
    intro n bs hmem hcount
    rw [List.map_append, List.count_append, List.map_singleton,
      List.count_singleton] at hcount
    rcases List.mem_append.mp hmem with hmem | hmem
    · have hne : m ≠ n := by
        rintro rfl
        exact hm (List.mem_map_of_mem hmem)
      exact hall n bs hmem (by simpa [hne] using hcount)
    · obtain ⟨rfl, rfl⟩ := Prod.mk.inj (List.mem_singleton.mp hmem)
      rw [hzero] at hcount
      simp at hcount
  · have hpos : 0 < (registrations.map Prod.fst).count m :=
      List.count_pos_iff.mpr (List.mem_map_of_mem hlast.mem)
    simp only [isReportable, hget, List.all_append, Bool.and_eq_true]
    constructor
    · rintro ⟨hold, hnew⟩ n bs hmem hcount
      rw [List.map_append, List.count_append, List.map_singleton,
        List.count_singleton] at hcount
      rcases List.mem_append.mp hmem with hmem | hmem
      · by_cases hrepeated : 1 < (registrations.map Prod.fst).count n
        · exact hall n bs hmem hrepeated
        · have heq : m = n := by
            by_contra hne
            simp [hne] at hcount
            omega
          subst heq
          rw [hlast.eq_of_count_le (Nat.le_of_not_lt hrepeated) hmem]
          exact hold
      · obtain ⟨rfl, rfl⟩ := Prod.mk.inj (List.mem_singleton.mp hmem)
        exact hnew
    · intro hrep
      have hcount : 1 <
          ((registrations ++ [(m, as)]).map Prod.fst).count m := by
        rw [List.map_append, List.count_append, List.map_singleton,
          List.count_singleton_self]
        omega
      exact ⟨hrep m old (List.mem_append_left _ hlast.mem) hcount,
        hrep m as (List.mem_append_right _ (List.mem_singleton_self _)) hcount⟩

/-- Reporting is broken off exactly where a repeated pattern has attributes
without texts. -/
theorem brokenOff?_eq_none_iff (h : t.Reflects registrations)
    (hall : IsReportable registrations)
    (more : List (Matcher × List Attribute)) :
    t.brokenOff? more = none ↔ IsReportable (registrations ++ more) := by
  induction more generalizing t registrations with
  | nil => simp [brokenOff?, hall]
  | cons e more ih =>
    obtain ⟨m, as⟩ := e
    have hstep := h.isReportable_iff hall m as
    rw [brokenOff?]
    by_cases hreport : t.isReportable m as = true
    · rw [if_pos hreport, Option.map_eq_none_iff,
        ih (h.put m as) (hstep.mp hreport), List.append_assoc,
        List.singleton_append]
    · rw [if_neg hreport]
      simp only [reduceCtorEq, false_iff]
      intro hrep
      rw [← List.singleton_append, ← List.append_assoc] at hrep
      exact hreport (hstep.mpr hrep.of_append)

end LookupTable.Reflects

namespace Registry

/-! ## Runs of registrations -/

/-- A run of registrations is accepted if each of them describes a rule. -/
theorem registerAll_eq_ok_iff {r r' : Registry} (hr : r.isFrozen = false)
    {calls : List (Batch Matcher × Batch Attribute)} {rules : List Rule} :
    r.registerAll calls = .ok (rules, r') ↔
      calls.mapM (fun call => ruleOf call.1 call.2) = .ok rules ∧
        r' = { r with rules := r.rules ++ rules } := by
  induction calls generalizing r r' rules with
  | nil =>
    simp only [registerAll, List.mapM_nil, pure, Except.pure, Except.ok.injEq,
      Prod.mk.injEq]
    constructor
    · rintro ⟨rfl, rfl⟩
      simp
    · rintro ⟨rfl, rfl⟩
      simp
  | cons call calls ih =>
    rw [registerAll, List.mapM_cons]
    constructor
    · intro h
      obtain ⟨⟨rule, next⟩, hfirst, h⟩ := Outcome.bind_eq_ok_iff.mp h
      obtain ⟨⟨rest, last⟩, hrest, h⟩ := Outcome.bind_eq_ok_iff.mp h
      cases h
      obtain ⟨-, hrule, rfl⟩ := register_eq_ok_iff.mp hfirst
      obtain ⟨hrules, rfl⟩ :=
        (ih (r := { r with rules := r.rules ++ [rule] }) hr).mp hrest
      rw [hrule, hrules]
      exact ⟨rfl, by simp⟩
    · rintro ⟨h, rfl⟩
      obtain ⟨rule, hrule, h⟩ := Outcome.bind_eq_ok_iff.mp h
      obtain ⟨rest, hrest, h⟩ := Outcome.bind_eq_ok_iff.mp h
      cases h
      have hfirst := register_eq_ok_iff.mpr ⟨hr, hrule, rfl⟩
      have hmore := (ih (r := { r with rules := r.rules ++ [rule] }) hr).mpr
        ⟨hrest, rfl⟩
      rw [hfirst]
      change
        ((Registry.mk (r.rules ++ [rule]) r.table).registerAll calls >>= _) = _
      rw [hmore]
      simp [bind, Except.bind]

/-- A registry can be compiled if its registrations can be reported. -/
theorem exists_tryCompile_iff {r : Registry} (hr : r.table = none) :
    (∃ t, r.tryCompile.value.1 = .ok t) ↔
      IsReportable (r.rules.flatMap Rule.registrations) := by
  have hall : IsReportable [] := by
    intro m as hm
    cases hm
  have hbroken := LookupTable.reflects_empty.brokenOff?_eq_none_iff hall
    r.flatEntries
  rw [List.nil_append] at hbroken
  rw [show r.rules.flatMap Rule.registrations = r.flatEntries from rfl,
    ← hbroken]
  cases h : LookupTable.empty.brokenOff? r.flatEntries with
  | none => simp [tryCompile, brokenOff?, isFrozen, hr, h]
  | some records => simp [tryCompile, brokenOff?, isFrozen, hr, h]

end Registry

/-- The table of a registry reflects the registrations of its rules. -/
theorem Registry.reflects_of_tryCompile {r : Registry} {t : LookupTable}
    (hr : r.table = none) (ht : r.tryCompile.value.1 = .ok t) :
    t.Reflects (r.rules.flatMap Rule.registrations) := by
  have hfrozen : r.isFrozen = false := by rw [isFrozen, hr]; rfl
  rw [(tryCompile_of_not_frozen hfrozen ht).1]
  exact LookupTable.reflects_ofEntries _

/-- A source is built for a table with entries all of whose attributes are
valid. -/
theorem Source.exists_build_iff {t : LookupTable} {h : Handler} :
    (∃ source, (build t h).value = .ok (some source)) ↔
      t.entries ≠ [] ∧ ∀ e ∈ t.entries, ∀ a ∈ e.2, h.validate a = .ok () := by
  have hvalidate : validateAll h (t.entries.flatMap (·.2)) = .ok () ↔
      ∀ e ∈ t.entries, ∀ a ∈ e.2, h.validate a = .ok () := by
    rw [validateAll, Outcome.forM_eq_ok_iff]
    simp only [List.mem_flatMap, forall_exists_index, and_imp]
    exact ⟨fun h e he a ha => h a e he ha, fun h a e he ha => h e he a ha⟩
  rw [← hvalidate, build]
  by_cases hempty : t.entries = []
  · simp [hempty]
  · rw [if_neg hempty]
    cases validateAll h (t.entries.flatMap (·.2)) with
    | ok _ => simp [hempty]
    | error f => simp [Logged.quiet]

/-! ## Neighbouring rules -/

section

variable {front back : List Rule} {a b : Rule} {t t' : LookupTable}

/-- Where at most one of two neighbouring rules has patterns with a property, it
does not matter for such patterns which of the two comes first. -/
theorem registrationsWhere_exchanged {p : Matcher → Bool}
    (hapart : ∀ m ∈ a.patterns, ∀ n ∈ b.patterns, p m = true → p n = false) :
    registrationsWhere p
      ((front ++ a :: b :: back).flatMap Rule.registrations) =
      registrationsWhere p
        ((front ++ b :: a :: back).flatMap Rule.registrations) := by
  have hnil : ∀ rule : Rule, (∀ m ∈ rule.patterns, p m = false) →
      registrationsWhere p rule.registrations = [] := by
    intro rule hnone
    simpa [registrationsWhere, Rule.registrations, List.filter_eq_nil_iff]
      using hnone
  by_cases ha : ∃ m ∈ a.patterns, p m = true
  · obtain ⟨m, hm, hpm⟩ := ha
    have hb := hnil b fun n hn => hapart m hm n hn hpm
    simp only [registrationsWhere] at hb ⊢
    simp [hb]
  · have hfalse : ∀ m ∈ a.patterns, p m = false := by
      intro m hm
      by_contra hpm
      exact ha ⟨m, hm, by simpa using hpm⟩
    have ha := hnil a hfalse
    simp only [registrationsWhere] at ha ⊢
    simp [ha]

theorem perm_exchanged :
    ((front ++ a :: b :: back).flatMap Rule.registrations).Perm
      ((front ++ b :: a :: back).flatMap Rule.registrations) :=
  ((List.Perm.swap b a back).append_left front).flatMap_right _

/-- A request that is not selected by patterns of both rules gets the same
answer. -/
theorem lookup_eq_of_exchanged
    (h : t.Reflects ((front ++ a :: b :: back).flatMap Rule.registrations))
    (h' : t'.Reflects ((front ++ b :: a :: back).flatMap Rule.registrations))
    {request : Request}
    (hapart : ∀ m ∈ a.patterns, ∀ n ∈ b.patterns,
      m.selects request = true → n.selects request = false)
    (handler : Handler) :
    Source.lookup ⟨t'.entries, handler⟩ request =
      Source.lookup ⟨t.entries, handler⟩ request := by
  have hfind := h.find?_eq_of_registrationsWhere h'
    (registrationsWhere_exchanged (p := Matcher.selects request) hapart)
  simp only [Source.lookup, Source.entryFor?]
  rw [hfind]

/-- Rules without a common pattern give the same entries in both orders. -/
theorem mem_entries_iff_of_exchanged
    (h : t.Reflects ((front ++ a :: b :: back).flatMap Rule.registrations))
    (h' : t'.Reflects ((front ++ b :: a :: back).flatMap Rule.registrations))
    (hcommon : ∀ m ∈ a.patterns, m ∉ b.patterns)
    (e : Matcher × List Attribute) :
    e ∈ t'.entries ↔ e ∈ t.entries := by
  obtain ⟨m, as⟩ := e
  have hapart : ∀ k ∈ a.patterns, ∀ n ∈ b.patterns,
      decide (k = m) = true → decide (n = m) = false := by
    intro k hk n hn hkm
    obtain rfl := of_decide_eq_true hkm
    refine decide_eq_false ?_
    rintro rfl
    exact hcommon n hk hn
  have hsame : registrationsWhere (fun n => decide (n = m))
      ((front ++ a :: b :: back).flatMap Rule.registrations) =
        registrationsWhere (fun n => decide (n = m))
          ((front ++ b :: a :: back).flatMap Rule.registrations) :=
    registrationsWhere_exchanged hapart
  have hm : decide (m = m) = true := decide_eq_true rfl
  exact ⟨h'.mem_entries_of_registrationsWhere h hsame.symm hm,
    h.mem_entries_of_registrationsWhere h' hsame hm⟩

theorem exists_build_iff_of_exchanged
    (h : t.Reflects ((front ++ a :: b :: back).flatMap Rule.registrations))
    (h' : t'.Reflects ((front ++ b :: a :: back).flatMap Rule.registrations))
    (hcommon : ∀ m ∈ a.patterns, m ∉ b.patterns) (handler : Handler) :
    (∃ s, (Source.build t' handler).value = .ok (some s)) ↔
      ∃ s, (Source.build t handler).value = .ok (some s) := by
  have hentries := mem_entries_iff_of_exchanged h h' hcommon
  have hempty : t'.entries = [] ↔ t.entries = [] := by
    simp only [List.eq_nil_iff_forall_not_mem, hentries]
  simp only [Source.exists_build_iff, ne_eq, hempty, hentries]

end

/-- Two rules that are registered one directly after the other can as well be
registered in the opposite order.

If the registry can be compiled, it can be compiled then too.  A lookup in the
new table gives the same answer and the same report, for every request that is
not selected by patterns of both rules.  And a source is built for the new table
if and only if one is built for the old table, unless the two rules have a
pattern in common. -/
theorem lookup_of_exchanged
    {before after : List (Batch Matcher × Batch Attribute)}
    {first second : Batch Matcher × Batch Attribute} {a b : Rule}
    {rules : List Rule} {r : Registry}
    (h : Registry.empty.registerAll (before ++ first :: second :: after) =
      .ok (rules, r))
    (ha : Registry.ruleOf first.1 first.2 = .ok a)
    (hb : Registry.ruleOf second.1 second.2 = .ok b) :
    ∃ front back r', rules = front ++ a :: b :: back ∧
      Registry.empty.registerAll (before ++ second :: first :: after) =
        .ok (front ++ b :: a :: back, r') ∧
      ∀ t, r.tryCompile.value.1 = .ok t →
        ∃ t', r'.tryCompile.value.1 = .ok t' ∧
          (∀ request,
            (∀ m ∈ a.patterns, ∀ n ∈ b.patterns,
              m.selects request = true → n.selects request = false) →
            ∀ handler, Source.lookup ⟨t'.entries, handler⟩ request =
              Source.lookup ⟨t.entries, handler⟩ request) ∧
          ((∀ m ∈ a.patterns, m ∉ b.patterns) →
            ∀ handler,
              (∃ s, (Source.build t' handler).value = .ok (some s)) ↔
                ∃ s, (Source.build t handler).value = .ok (some s)) := by
  obtain ⟨hrules, hr⟩ := (Registry.registerAll_eq_ok_iff rfl).mp h
  obtain ⟨front, back, rfl, hexchanged⟩ :=
    Outcome.mapM_exchanged hrules ha hb
  obtain rfl : r = ⟨front ++ a :: b :: back, none⟩ := hr
  refine ⟨front, back, ⟨front ++ b :: a :: back, none⟩, rfl,
    (Registry.registerAll_eq_ok_iff rfl).mpr ⟨hexchanged, rfl⟩, ?_⟩
  intro t ht
  have hreportable := (Registry.exists_tryCompile_iff rfl).mp ⟨t, ht⟩
  obtain ⟨t', ht'⟩ := (Registry.exists_tryCompile_iff
    (r := ⟨front ++ b :: a :: back, none⟩) rfl).mpr
      (hreportable.perm perm_exchanged)
  have hreflects := Registry.reflects_of_tryCompile rfl ht
  have hreflects' := Registry.reflects_of_tryCompile rfl ht'
  exact ⟨t', ht',
    fun _ hapart handler =>
      lookup_eq_of_exchanged hreflects hreflects' hapart handler,
    exists_build_iff_of_exchanged hreflects hreflects'⟩

/-- Rules for two methods change places.  The second one's pattern was
registered before, and the first one's is registered again, both with other
attributes. -/
theorem lookup_of_exchanged_methods :
    let get : Matcher := .ant ⟨"/**", some "GET", true⟩
    let post : Matcher := .ant ⟨"/**", some "POST", true⟩
    let call (m : Matcher) (s : String) : Batch Matcher × Batch Attribute :=
      (.many [m], .many [.token s])
    let rule (m : Matcher) (s : String) : Rule := ⟨[m], [.token s]⟩
    let rules := [rule post "A", rule get "B", rule post "C", rule get "D"]
    Registry.empty.registerAll
        [call post "A", call get "B", call post "C", call get "D"] =
      .ok (rules, ⟨rules, none⟩) ∧
    Registry.ruleOf (.many [get]) (.many [.token "B"]) = .ok (rule get "B") ∧
    Registry.ruleOf (.many [post]) (.many [.token "C"]) = .ok (rule post "C") ∧
    (∀ request, get.selects request = true → post.selects request = false) ∧
    ∃ r' t t', Registry.empty.registerAll
        [call post "A", call post "C", call get "B", call get "D"] =
          .ok ([rule post "A", rule post "C", rule get "B", rule get "D"], r') ∧
      (Registry.mk rules none).tryCompile.value.1 = .ok t ∧
      r'.tryCompile.value.1 = .ok t' ∧
      ∀ request handler, Source.lookup ⟨t'.entries, handler⟩ request =
        Source.lookup ⟨t.entries, handler⟩ request := by
  intro get post call rule rules
  have hrun : Registry.empty.registerAll
      ([call post "A"] ++ call get "B" :: call post "C" :: [call get "D"]) =
        .ok (rules, ⟨rules, none⟩) := rfl
  have hget : Registry.ruleOf (.many [get]) (.many [.token "B"]) =
      .ok (rule get "B") := rfl
  have hpost : Registry.ruleOf (.many [post]) (.many [.token "C"]) =
      .ok (rule post "C") := rfl
  have hapart : ∀ request, get.selects request = true →
      post.selects request = false := by
    intro request hselects
    have hmethod : request.method = "GET" := by
      have hadmits := (Bool.and_eq_true _ _).mp hselects
      exact eq_of_beq hadmits.1
    have hother : (request.method == "POST") = false := by
      rw [hmethod]
      rfl
    exact Bool.and_eq_false_iff.mpr (Or.inl hother)
  obtain ⟨front, back, r', -, hexchanged, htables⟩ :=
    lookup_of_exchanged hrun hget hpost
  let others := [rule post "A", rule post "C", rule get "B", rule get "D"]
  have hothers : Registry.empty.registerAll
      ([call post "A"] ++ call post "C" :: call get "B" :: [call get "D"]) =
        .ok (others, ⟨others, none⟩) := rfl
  obtain rfl : ⟨others, none⟩ = r' :=
    congrArg Prod.snd (Except.ok.inj (hothers.symm.trans hexchanged))
  obtain ⟨t, ht⟩ : ∃ t, (Registry.mk rules none).tryCompile.value.1 = .ok t :=
    ⟨_, rfl⟩
  obtain ⟨t', ht', hlookup, -⟩ := htables t ht
  refine ⟨hrun, hget, hpost, hapart, ⟨others, none⟩, t, t', hothers, ht, ht',
    fun request => hlookup request ?_⟩
  intro m hm n hn
  rw [List.mem_singleton.mp hm, List.mem_singleton.mp hn]
  exact hapart request

/-- Two rules share a pattern that selects no request, and only the attribute of
the first one is refused.  It is replaced by the other one's, unless the rules
change places. -/
theorem build_of_exchanged_sharing :
    let never : Matcher := .regex ⟨"(?!)", none, false⟩
    let raw : Attribute := .requirement (.raw (some "hasRoles('A')"))
    let call (a : Attribute) : Batch Matcher × Batch Attribute :=
      (.many [never], .many [a])
    let rule (a : Attribute) : Rule := ⟨[never], [a]⟩
    let rules := [rule raw, rule (.token "B")]
    let exchanged := [rule (.token "B"), rule raw]
    let handler := Handler.make .standard []
    (∀ request, never.selects request = false) ∧
    Registry.empty.registerAll [call raw, call (.token "B")] =
      .ok (rules, ⟨rules, none⟩) ∧
    Registry.empty.registerAll [call (.token "B"), call raw] =
      .ok (exchanged, ⟨exchanged, none⟩) ∧
    ∃ t t', (Registry.mk rules none).tryCompile.value.1 = .ok t ∧
      (Registry.mk exchanged none).tryCompile.value.1 = .ok t' ∧
      (∃ s, (Source.build t handler).value = .ok (some s)) ∧
      (Source.build t' handler).value =
        .error (.unknownFunctions ["hasRoles"] "hasRoles('A')") := by
  intro never raw call rule rules exchanged handler
  have hnever (request : Request) : never.selects request = false := by
    have hread : Regex.ofPattern "(?!)" false = .ok (.ahead true .empty) := by
      decide +kernel
    simp only [never, Matcher.selects, RegexMatcher.selects, hread]
    exact Bool.and_false _
  have hraw : handler.validate raw =
      .error (.unknownFunctions ["hasRoles"] "hasRoles('A')") := by
    decide +kernel
  refine ⟨hnever, rfl, rfl, ⟨[(never, [.token "B"])]⟩, ⟨[(never, [raw])]⟩,
    rfl, rfl, ⟨⟨[(never, [.token "B"])], handler⟩, rfl⟩, ?_⟩
  simp [Source.build, Source.validateAll, hraw, Logged.quiet, bind, Except.bind]

end AccessRules
