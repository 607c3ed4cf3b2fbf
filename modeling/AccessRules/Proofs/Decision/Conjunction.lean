import AccessRules.Proofs.Decision.Aggregation

/-!
# Requirements as a conjunction

The expression voter goes through the requirements among the attributes and
stops at the first one that does not hold.  If that one fails to be evaluated
the voter raises its error, so the voter alone tells the order of the
requirements apart.

A manager turns an error of evaluation into a denial.  With the expression voter
as its only voter, its answer depends on the set of the requirements alone:
there is none without requirements, access is granted if all of them hold, and
denied otherwise.
-/

namespace AccessRules

variable {h : Handler} {c : Context} {attributes : List Attribute}

theorem mem_requirements_iff {r : Requirement} :
    r ∈ attributes.filterMap Attribute.requirement? ↔
      .requirement r ∈ attributes := by
  rw [List.mem_filterMap]
  constructor
  · rintro ⟨a, ha, hr⟩
    cases a with
    | requirement r' =>
      cases hr
      exact ha
    | token _ | other _ => cases hr
  · intro hr
    exact ⟨.requirement r, hr, rfl⟩

namespace Voter

/-! ## The vote of the expression voter -/

/-- Requirements that hold are passed over. -/
theorem voteOn_append {before : List Requirement}
    (hbefore : ∀ r ∈ before, h.evaluate c r = .ok true)
    (rest : List Requirement) :
    voteOn h c (before ++ rest) = voteOn h c rest := by
  induction before with
  | nil => rfl
  | cons r before ih =>
    rw [List.forall_mem_cons] at hbefore
    rw [List.cons_append, voteOn, hbefore.1]
    exact ih hbefore.2

theorem voteOn_of_forall {requirements : List Requirement}
    (hall : ∀ r ∈ requirements, h.evaluate c r = .ok true) :
    voteOn h c requirements = .quiet (.ok .granted) := by
  rw [← List.append_nil requirements, voteOn_append hall]
  rfl

/-- What the first requirement that does not hold makes of a vote. -/
def outcomeAt (h : Handler) (c : Context) (r : Requirement) :
    Logged (Except Fault Vote) :=
  match h.evaluate c r with
  | .ok _ => ⟨.ok .denied, [dissatisfaction c r]⟩
  | .error f => .quiet (.error f)

theorem voteOn_of_first {before : List Requirement} {r : Requirement}
    (hbefore : ∀ r ∈ before, h.evaluate c r = .ok true)
    (hr : h.evaluate c r ≠ .ok true) (after : List Requirement) :
    voteOn h c (before ++ r :: after) = outcomeAt h c r := by
  rw [voteOn_append hbefore, voteOn, outcomeAt]
  cases hresult : h.evaluate c r with
  | error f => rfl
  | ok b =>
    cases b with
    | true => exact absurd hresult hr
    | false => rfl

theorem vote_expression_of_ne_nil
    (hne : attributes.filterMap Attribute.requirement? ≠ []) :
    (expression h).vote c attributes =
      voteOn h c (attributes.filterMap Attribute.requirement?) := by
  cases hrs : attributes.filterMap Attribute.requirement? with
  | nil => exact absurd hrs hne
  | cons r rs => simp only [expression, hrs]

/-- The first requirement that does not hold decides, whatever the attributes
behind it are. -/
theorem vote_expression_of_first {before after : List Requirement}
    {r : Requirement}
    (hsplit : attributes.filterMap Attribute.requirement? =
      before ++ r :: after)
    (hbefore : ∀ r ∈ before, h.evaluate c r = .ok true)
    (hr : h.evaluate c r ≠ .ok true) :
    (expression h).vote c attributes = outcomeAt h c r := by
  rw [vote_expression_of_ne_nil (by simp [hsplit]), hsplit,
    voteOn_of_first hbefore hr]

/-- Of requirements that do not all hold, one is the first that does not. -/
theorem exists_first_failing {requirements : List Requirement}
    (hfails : ∃ r ∈ requirements, h.evaluate c r ≠ .ok true) :
    ∃ before r after, requirements = before ++ r :: after ∧
      (∀ b ∈ before, h.evaluate c b = .ok true) ∧
      h.evaluate c r ≠ .ok true := by
  obtain ⟨r, hr, hfails⟩ := hfails
  obtain ⟨before, k, after, hsplit, hbefore, hk⟩ := Outcome.exists_first
    (p := fun r => decide (h.evaluate c r ≠ .ok true))
    ⟨r, hr, decide_eq_true hfails⟩
  refine ⟨before, k, after, hsplit, ?_, of_decide_eq_true hk⟩
  intro b hb
  by_contra hfails
  have hholds := hbefore b hb
  rw [decide_eq_true hfails] at hholds
  cases hholds

end Voter

namespace Manager

variable {m : Manager}

/-! ## The joint vote -/

/-- A poll of one voter has its vote, with a denial for an error of
evaluation. -/
theorem value_poll_single {v : Voter} (hm : m.voters = [v]) :
    (m.poll c (some attributes)).outcome.value =
      match (v.vote c attributes).value with
      | .ok vote => .ok vote
      | .error f => if f.isEvaluation then .ok .denied else .error f := by
  rw [poll, hm, ask]
  cases hanswer : (v.vote c attributes).value with
  | ok vote => cases vote <;> simp [ask, Logged.quiet, hanswer]
  | error f =>
    by_cases hf : f.isEvaluation = true
    · simp [ask, Logged.quiet, hf]
    · simp [hf, hanswer]

theorem poll_expression_of_none (hm : m.voters = [.expression h])
    (hnone : ∀ r, .requirement r ∉ attributes) :
    (m.poll c (some attributes)).outcome.value = .ok .abstain := by
  have hnil : attributes.filterMap Attribute.requirement? = [] := by
    rw [List.eq_nil_iff_forall_not_mem]
    intro r hr
    exact hnone r (mem_requirements_iff.mp hr)
  rw [value_poll_single hm]
  simp [Voter.expression, hnil, Logged.quiet]

theorem poll_expression_of_forall (hm : m.voters = [.expression h])
    (hsome : ∃ r, .requirement r ∈ attributes)
    (hall : ∀ r, .requirement r ∈ attributes → h.evaluate c r = .ok true) :
    (m.poll c (some attributes)).outcome.value = .ok .granted := by
  obtain ⟨r, hr⟩ := hsome
  have hne : attributes.filterMap Attribute.requirement? ≠ [] :=
    List.ne_nil_of_mem (mem_requirements_iff.mpr hr)
  have hvote : (Voter.expression h).vote c attributes =
      .quiet (.ok .granted) := by
    rw [Voter.vote_expression_of_ne_nil hne]
    exact Voter.voteOn_of_forall fun r hr => hall r (mem_requirements_iff.mp hr)
  rw [value_poll_single hm, hvote]
  rfl

theorem poll_expression_of_not_forall (hm : m.voters = [.expression h])
    (hsafe : ∀ r, .requirement r ∈ attributes →
      ∀ f, h.evaluate c r = .error f → f.isEvaluation = true)
    (hfails : ∃ r, .requirement r ∈ attributes ∧ h.evaluate c r ≠ .ok true) :
    (m.poll c (some attributes)).outcome.value = .ok .denied := by
  obtain ⟨r, hr, hfails⟩ := hfails
  obtain ⟨before, k, after, hsplit, hbefore, hk⟩ :=
    Voter.exists_first_failing ⟨r, mem_requirements_iff.mpr hr, hfails⟩
  have hmem : .requirement k ∈ attributes :=
    mem_requirements_iff.mp (by simp [hsplit])
  rw [value_poll_single hm, Voter.vote_expression_of_first hsplit hbefore hk,
    Voter.outcomeAt]
  cases hresult : h.evaluate c k with
  | ok b => rfl
  | error f => simp [Logged.quiet, hsafe k hmem f hresult]

/-- There are no requirements, all of them hold, or one does not. -/
theorem poll_expression_cases (hm : m.voters = [.expression h])
    (hsafe : ∀ r, .requirement r ∈ attributes →
      ∀ f, h.evaluate c r = .error f → f.isEvaluation = true) :
    (∀ r, .requirement r ∉ attributes) ∧
        (m.poll c (some attributes)).outcome.value = .ok .abstain ∨
      ((∃ r, .requirement r ∈ attributes) ∧
          ∀ r, .requirement r ∈ attributes → h.evaluate c r = .ok true) ∧
        (m.poll c (some attributes)).outcome.value = .ok .granted ∨
      (∃ r, .requirement r ∈ attributes ∧ h.evaluate c r ≠ .ok true) ∧
        (m.poll c (some attributes)).outcome.value = .ok .denied := by
  by_cases hfails : ∃ r, .requirement r ∈ attributes ∧
      h.evaluate c r ≠ .ok true
  · exact Or.inr (Or.inr
      ⟨hfails, poll_expression_of_not_forall hm hsafe hfails⟩)
  · have hall : ∀ r, .requirement r ∈ attributes →
        h.evaluate c r = .ok true := by
      intro r hr
      by_contra hr'
      exact hfails ⟨r, hr, hr'⟩
    by_cases hsome : ∃ r, .requirement r ∈ attributes
    · exact Or.inr (Or.inl
        ⟨⟨hsome, hall⟩, poll_expression_of_forall hm hsome hall⟩)
    · have hnone : ∀ r, .requirement r ∉ attributes :=
        fun r hr => hsome ⟨r, hr⟩
      exact Or.inl ⟨hnone, poll_expression_of_none hm hnone⟩

/-- Attributes with the same requirements have the same joint vote. -/
theorem poll_expression_congr (hm : m.voters = [.expression h])
    (hsafe : ∀ r, .requirement r ∈ attributes →
      ∀ f, h.evaluate c r = .error f → f.isEvaluation = true)
    {others : List Attribute}
    (hsame : ∀ r, .requirement r ∈ others ↔ .requirement r ∈ attributes) :
    (m.poll c (some others)).outcome.value =
      (m.poll c (some attributes)).outcome.value := by
  rcases poll_expression_cases hm hsafe with
    ⟨hnone, hvote⟩ | ⟨⟨hsome, hall⟩, hvote⟩ | ⟨hfails, hvote⟩
  · rw [hvote]
    apply poll_expression_of_none hm
    simpa only [hsame] using hnone
  · rw [hvote]
    apply poll_expression_of_forall hm
    · simpa only [hsame] using hsome
    · simpa only [hsame] using hall
  · rw [hvote]
    apply poll_expression_of_not_forall hm
    · simpa only [hsame] using hsafe
    · simpa only [hsame] using hfails

/-- Each of the three votes, by the requirements that occur and the ones that
hold. -/
theorem poll_expression_iff (hm : m.voters = [.expression h])
    (hsafe : ∀ r, .requirement r ∈ attributes →
      ∀ f, h.evaluate c r = .error f → f.isEvaluation = true) :
    let vote := (m.poll c (some attributes)).outcome.value
    (vote = .ok .abstain ↔ ∀ r, .requirement r ∉ attributes) ∧
    (vote = .ok .granted ↔
      (∃ r, .requirement r ∈ attributes) ∧
        ∀ r, .requirement r ∈ attributes → h.evaluate c r = .ok true) ∧
    (vote = .ok .denied ↔
      ∃ r, .requirement r ∈ attributes ∧ h.evaluate c r ≠ .ok true) := by
  intro vote
  rcases poll_expression_cases hm hsafe with
    ⟨hnone, hvote⟩ | ⟨⟨⟨r, hr⟩, hall⟩, hvote⟩ | ⟨⟨r, hr, hfails⟩, hvote⟩
  · simp [vote, hvote, hnone]
  · simp only [vote, hvote]
    refine ⟨?_, ?_, ?_⟩
    · simpa using ⟨r, hr⟩
    · simpa using ⟨⟨r, hr⟩, hall⟩
    · simpa using hall
  · simp only [vote, hvote]
    refine ⟨?_, ?_, ?_⟩
    · simpa using ⟨r, hr⟩
    · simpa using fun _ _ => ⟨r, hr, hfails⟩
    · simpa using ⟨r, hr, hfails⟩

/-- A token, or an attribute that is there already, brings no requirement with
it. -/
theorem requirement_mem_insert_iff {before after : List Attribute}
    {a : Attribute} (ha : a ∈ before ++ after ∨ ∃ s, a = .token s)
    (r : Requirement) :
    .requirement r ∈ before ++ a :: after ↔
      .requirement r ∈ before ++ after := by
  rw [List.mem_append, List.mem_cons, List.mem_append]
  rcases ha with ha | ⟨s, rfl⟩
  · rw [List.mem_append] at ha
    constructor
    · rintro (hr | rfl | hr)
      · exact Or.inl hr
      · exact ha
      · exact Or.inr hr
    · rintro (hr | hr)
      · exact Or.inl hr
      · exact Or.inr (Or.inr hr)
  · simp

/-- A manager with the expression voter alone has no opinion on attributes
without requirements, grants access if there are requirements and all of them
hold, and denies it otherwise.  The order of the attributes, repeated ones and
tokens among them make no difference.  The voter itself answers at the first
requirement that does not hold, with a denial or with its error, whatever stands
behind it.

In raw expressions, escapes by name are not read, and those of surrogates all
give the replacement character; see `Expression.Escape.read`. -/
theorem poll_expression (hm : m.voters = [.expression h])
    (hsafe : ∀ r, .requirement r ∈ attributes →
      ∀ f, h.evaluate c r = .error f → f.isEvaluation = true) :
    let vote (as : List Attribute) := (m.poll c (some as)).outcome.value
    (vote attributes = .ok .abstain ↔ ∀ r, .requirement r ∉ attributes) ∧
    (vote attributes = .ok .granted ↔
      (∃ r, .requirement r ∈ attributes) ∧
        ∀ r, .requirement r ∈ attributes → h.evaluate c r = .ok true) ∧
    (vote attributes = .ok .denied ↔
      ∃ r, .requirement r ∈ attributes ∧ h.evaluate c r ≠ .ok true) ∧
    (∀ others : List Attribute,
      (∀ r, .requirement r ∈ others ↔ .requirement r ∈ attributes) →
      vote others = vote attributes) ∧
    (∀ others : List Attribute, others.Perm attributes →
      vote others = vote attributes) ∧
    (∀ before a after, attributes = before ++ after →
      (a ∈ attributes ∨ ∃ s, a = .token s) →
      vote (before ++ a :: after) = vote attributes) ∧
    (∀ before s after, attributes = before ++ .token s :: after →
      vote (before ++ after) = vote attributes) ∧
    ∀ before r after,
      attributes.filterMap Attribute.requirement? = before ++ r :: after →
      (∀ b ∈ before, h.evaluate c b = .ok true) →
      (h.evaluate c r = .ok false →
        (Voter.expression h).vote c attributes =
          ⟨.ok .denied, [Voter.dissatisfaction c r]⟩) ∧
      ∀ f, h.evaluate c r = .error f →
        (Voter.expression h).vote c attributes = .quiet (.error f) := by
  intro vote
  have hcongr : ∀ others : List Attribute,
      (∀ r, .requirement r ∈ others ↔ .requirement r ∈ attributes) →
      vote others = vote attributes :=
    fun others hsame => poll_expression_congr hm hsafe hsame
  obtain ⟨habstain, hgranted, hdenied⟩ := poll_expression_iff hm hsafe
  refine ⟨habstain, hgranted, hdenied, hcongr, ?_, ?_, ?_, ?_⟩
  · intro others hperm
    exact hcongr others fun r => hperm.mem_iff
  · rintro before a after rfl ha
    exact hcongr _ (requirement_mem_insert_iff ha)
  · rintro before s after rfl
    exact hcongr _ fun r =>
      (requirement_mem_insert_iff (Or.inr ⟨s, rfl⟩) r).symm
  · intro before r after hsplit hbefore
    have hvote : h.evaluate c r ≠ .ok true →
        (Voter.expression h).vote c attributes = Voter.outcomeAt h c r :=
      Voter.vote_expression_of_first hsplit hbefore
    constructor
    · intro hfalse
      rw [hvote (by simp [hfalse]), Voter.outcomeAt, hfalse]
    · intro f hf
      rw [hvote (by simp [hf]), Voter.outcomeAt, hf]

/-- A requirement that is denied and one that cannot be evaluated.  The voter
tells their order apart, and the manager does not. -/
theorem poll_expression_reordered :
    let h := Handler.make .standard []
    let c : Context := ⟨⟨some "bob", [], false, false⟩, ⟨"GET", "/x", none⟩⟩
    let m : Manager := ⟨[.expression h], true⟩
    let unknown := Requirement.custom "Custom" "x" "Custom('x')"
    let attributes : List Attribute :=
      [.requirement .denyAll, .requirement unknown]
    m.voters = [.expression h] ∧
      (∀ r, .requirement r ∈ attributes →
        ∀ f, h.evaluate c r = .error f → f.isEvaluation = true) ∧
      (m.poll c (some attributes)).outcome.value = .ok .denied ∧
      (m.poll c (some [.requirement unknown, .token "A",
        .requirement .denyAll, .requirement unknown])).outcome.value =
          .ok .denied ∧
      ((Voter.expression h).vote c attributes).value = .ok .denied ∧
      ((Voter.expression h).vote c [.requirement unknown,
        .requirement .denyAll]).value =
          .error (.noRuleFor "Custom('x')" "Custom") := by
  intro h c m unknown attributes
  have hm : m.voters = [.expression h] := rfl
  have hsafe : ∀ r, .requirement r ∈ attributes →
      ∀ f, h.evaluate c r = .error f → f.isEvaluation = true := by
    intro r hr f hf
    simp only [attributes, List.mem_cons, Attribute.requirement.injEq,
      List.not_mem_nil, or_false] at hr
    rcases hr with rfl | rfl
    · cases hf
    · cases hf
      rfl
  have hsafe' : ∀ r, .requirement r ∈ [Attribute.requirement unknown,
        .requirement .denyAll] →
      ∀ f, h.evaluate c r = .error f → f.isEvaluation = true := by
    intro r hr
    exact hsafe r (List.mem_reverse.mp hr)
  obtain ⟨-, -, hdenied, hsame, -, -, -, hfirst⟩ :=
    poll_expression hm hsafe
  have hvote :=
    hdenied.mpr ⟨.denyAll, by simp [attributes], by simp [Handler.evaluate]⟩
  have hfalse := (hfirst [] .denyAll [unknown] rfl (by simp)).1 rfl
  have herror := (poll_expression hm hsafe').2.2.2.2.2.2.2 [] unknown [.denyAll]
    rfl (by simp)
  refine ⟨hm, hsafe, hvote, (hsame _ ?_).trans hvote, ?_, ?_⟩
  · intro r
    simp only [attributes, List.mem_cons, reduceCtorEq, false_or,
      List.not_mem_nil, or_false]
    tauto
  · rw [hfalse]
  · rw [herror.2 _ rfl]
    rfl

end Manager

end AccessRules
