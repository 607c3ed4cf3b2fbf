import AccessRules.Decision.Manager
import AccessRules.Proofs.Handler.Evaluation

/-!
# Polls that always give a vote

A manager turns errors of evaluation into denials.  So if the voters raise no
other errors, a poll gives a vote, and a decision lets the request through or
denies access to it.

The expression voter raises the errors of its handler.  For attributes that the
handler has validated, these are errors of evaluation.
-/

namespace AccessRules

variable {c : Context} {attributes : List Attribute}

/-- A voter that answers with a vote or an error of evaluation. -/
def Voter.FailsSafely (v : Voter) (c : Context) (attributes : List Attribute) :
    Prop :=
  ∀ f, (v.vote c attributes).value = .error f → f.isEvaluation = true

namespace Manager

/-- Voters that fail safely have a joint vote. -/
theorem ask_ok {voters : List Voter}
    (hvoters : ∀ v ∈ voters, v.FailsSafely c attributes) (denied : Bool) :
    ∃ vote, (ask c attributes denied voters).outcome.value = .ok vote := by
  induction voters generalizing denied with
  | nil => exact ⟨_, rfl⟩
  | cons v voters ih =>
    rw [List.forall_mem_cons] at hvoters
    obtain ⟨hv, hrest⟩ := hvoters
    rw [ask]
    cases hanswer : (v.vote c attributes).value with
    | ok vote =>
      cases vote with
      | granted => exact ⟨.granted, hanswer⟩
      | denied => exact ih hrest true
      | abstain => exact ih hrest denied
    | error f =>
      simp only [hv f hanswer, ↓reduceIte]
      exact ih hrest true

theorem poll_ok {m : Manager} {attributes : Option (List Attribute)}
    (hvoters : ∀ as, attributes = some as →
      ∀ v ∈ m.voters, v.FailsSafely c as) :
    ∃ vote, (m.poll c attributes).outcome.value = .ok vote := by
  cases attributes with
  | none => exact ⟨.abstain, rfl⟩
  | some as => exact ask_ok (hvoters as rfl) false

/-- A decision for which there is a joint vote lets the request through or
denies access. -/
theorem decide_of_poll_ok {m : Manager}
    {attributes : Option (List Attribute)} {vote : Vote}
    (hpoll : (m.poll c attributes).outcome.value = .ok vote) :
    m.decide c attributes = .ok () ∨
      m.decide c attributes = .error (.denied c.request.method
        c.request.path c.security.principal vote.name) := by
  have hdecide : m.decide c attributes = m.verdict c vote := by
    rw [decide, hpoll]
    rfl
  rw [hdecide]
  cases vote with
  | granted => exact Or.inl rfl
  | denied => exact Or.inr rfl
  | abstain =>
    rw [verdict]
    split
    · exact Or.inl rfl
    · exact Or.inr rfl

end Manager

namespace Voter

/-- An error in a vote on requirements is the error of one of them. -/
theorem voteOn_error {h : Handler} {requirements : List Requirement}
    {f : Fault} (hf : (voteOn h c requirements).value = .error f) :
    ∃ r ∈ requirements, h.evaluate c r = .error f := by
  induction requirements with
  | nil => cases hf
  | cons r rs ih =>
    cases hr : h.evaluate c r with
    | error e =>
      have hsame : e = f := by
        simpa [voteOn, hr, Logged.quiet] using hf
      exact ⟨r, List.mem_cons_self, hsame ▸ hr⟩
    | ok b =>
      have hrest : (voteOn h c rs).value = .error f := by
        cases b with
        | true => simpa [voteOn, hr] using hf
        | false => simp [voteOn, hr] at hf
      obtain ⟨r', hr', herror⟩ := ih hrest
      exact ⟨r', List.mem_cons_of_mem r hr', herror⟩

/-- The expression voter fails safely on attributes that were validated. -/
theorem failsSafely_expression {h : Handler}
    (hvalid : ∀ a ∈ attributes, h.validate a = .ok ()) :
    (expression h).FailsSafely c attributes := by
  intro f hf
  simp only [expression] at hf
  split at hf
  · cases hf
  · obtain ⟨r, hr, herror⟩ := voteOn_error hf
    obtain ⟨a, ha, hrequirement⟩ := List.mem_filterMap.mp hr
    cases a with
    | requirement r' =>
      cases hrequirement
      exact Handler.isEvaluation_of_validate (hvalid _ ha) herror
    | token _ | other _ => cases hrequirement

end Voter

end AccessRules
