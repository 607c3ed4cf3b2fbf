import AccessRules.Proofs.Decision.Polling
import AccessRules.Proofs.Outcome

/-!
# What a poll makes of its votes

A poll ends with the first voter that grants access or raises an error that is
none of evaluation, and its answer is the outcome.  Where there is no such
voter, everybody is asked, and one denial or error of evaluation is enough for a
denial.

One step of a poll says what asking one voter adds to the rest, and the outcome,
the number of voters asked and the log follow by induction over the voters.  As
long as there are no errors other than those of evaluation, the outcome depends
only on which answers occur, and so not on the order of the voters.
-/

namespace AccessRules

variable {c : Context} {attributes : List Attribute}

namespace Voter

/-! ## Answers -/

/-- Whether the answer of a voter ends a poll: access is granted, or there is an
error that is none of evaluation. -/
def endsPoll (v : Voter) (c : Context) (attributes : List Attribute) : Bool :=
  match (v.vote c attributes).value with
  | .ok .granted => true
  | .ok _ => false
  | .error f => !f.isEvaluation

/-- The error of evaluation that a voter raises, if it raises one. -/
def evaluationError? (v : Voter) (c : Context) (attributes : List Attribute) :
    Option Fault :=
  match (v.vote c attributes).value with
  | .ok _ => none
  | .error f => if f.isEvaluation then some f else none

/-- Whether the answer of a voter counts as a denial. -/
def objects (v : Voter) (c : Context) (attributes : List Attribute) : Bool :=
  match (v.vote c attributes).value with
  | .ok .denied => true
  | .ok _ => false
  | .error f => f.isEvaluation

/-- What is reported while a voter is asked: its own records, and a warning if
it raises an error of evaluation. -/
def report (c : Context) (attributes : List Attribute) (v : Voter) :
    List Record :=
  (v.vote c attributes).records ++
    ((v.evaluationError? c attributes).map (Manager.failure c.request)).toList

theorem evaluationError?_of_endsPoll {v : Voter}
    (h : v.endsPoll c attributes = true) :
    v.evaluationError? c attributes = none := by
  rw [endsPoll] at h
  rw [evaluationError?]
  cases hanswer : (v.vote c attributes).value with
  | ok vote => rfl
  | error f => simpa [hanswer] using h

theorem report_of_endsPoll {v : Voter} (h : v.endsPoll c attributes = true) :
    v.report c attributes = (v.vote c attributes).records := by
  rw [report, evaluationError?_of_endsPoll h]
  exact List.append_nil _

/-- A voter that fails safely ends a poll only by granting access. -/
theorem FailsSafely.granted {v : Voter} (hv : v.FailsSafely c attributes)
    (h : v.endsPoll c attributes = true) :
    (v.vote c attributes).value = .ok .granted := by
  rw [endsPoll] at h
  cases hanswer : (v.vote c attributes).value with
  | ok vote =>
    cases vote with
    | granted => rfl
    | abstain | denied => simp [hanswer] at h
  | error f => simp [hanswer, hv f hanswer] at h

end Voter

namespace Manager

/-! ## One voter -/

theorem ask_cons_of_endsPoll {v : Voter} (h : v.endsPoll c attributes = true)
    (denied : Bool) (voters : List Voter) :
    ask c attributes denied (v :: voters) = ⟨v.vote c attributes, 1⟩ := by
  rw [Voter.endsPoll] at h
  rw [ask]
  cases hanswer : (v.vote c attributes).value with
  | ok vote =>
    cases vote with
    | granted => rfl
    | abstain | denied => simp [hanswer] at h
  | error f =>
    have hf : f.isEvaluation = false := by simpa [hanswer] using h
    simp [hf]

/-- A voter that does not end the poll is reported, and its denial is kept in
mind for the others. -/
theorem ask_cons_of_not_endsPoll {v : Voter}
    (h : v.endsPoll c attributes = false) (denied : Bool)
    (voters : List Voter) :
    ask c attributes denied (v :: voters) =
      let rest := ask c attributes (denied || v.objects c attributes) voters
      ⟨⟨rest.outcome.value, v.report c attributes ++ rest.outcome.records⟩,
        rest.asked + 1⟩ := by
  rw [Voter.endsPoll] at h
  rw [ask, Voter.report, Voter.objects, Voter.evaluationError?]
  cases hanswer : (v.vote c attributes).value with
  | ok vote =>
    cases vote with
    | granted => simp [hanswer] at h
    | abstain => simp
    | denied => simp
  | error f =>
    have hf : f.isEvaluation = true := by simpa [hanswer] using h
    simp [hf]

/-! ## All voters -/

/-- A poll ends with the first answer that ends it, whoever stands behind. -/
theorem ask_of_endsPoll {before : List Voter} {k : Voter}
    (hbefore : ∀ v ∈ before, v.endsPoll c attributes = false)
    (hk : k.endsPoll c attributes = true) (denied : Bool)
    (after : List Voter) :
    ask c attributes denied (before ++ k :: after) =
      ⟨⟨(k.vote c attributes).value,
          (before ++ [k]).flatMap (Voter.report c attributes)⟩,
        before.length + 1⟩ := by
  induction before generalizing denied with
  | nil =>
    rw [List.nil_append, ask_cons_of_endsPoll hk]
    simp [Voter.report_of_endsPoll hk]
  | cons v before ih =>
    rw [List.forall_mem_cons] at hbefore
    rw [List.cons_append, ask_cons_of_not_endsPoll hbefore.1, ih hbefore.2]
    simp

/-- Without an answer that ends it, a poll asks everybody and counts the
denials. -/
theorem ask_of_forall_not_endsPoll {voters : List Voter}
    (hvoters : ∀ v ∈ voters, v.endsPoll c attributes = false)
    (denied : Bool) :
    ask c attributes denied voters =
      ⟨⟨.ok (if denied || voters.any (·.objects c attributes) then .denied
            else .abstain),
          voters.flatMap (Voter.report c attributes)⟩,
        voters.length⟩ := by
  induction voters generalizing denied with
  | nil => simp [ask, Logged.quiet]
  | cons v voters ih =>
    rw [List.forall_mem_cons] at hvoters
    rw [ask_cons_of_not_endsPoll hvoters.1, ih hvoters.2]
    simp [Bool.or_assoc]

/-- The outcome of a poll of voters that fail safely, by the answers that
occur. -/
theorem value_ask_of_failsSafely {voters : List Voter}
    (hvoters : ∀ v ∈ voters, v.FailsSafely c attributes) :
    (ask c attributes false voters).outcome.value =
      .ok (if voters.any (·.endsPoll c attributes) then .granted
        else if voters.any (·.objects c attributes) then .denied
        else .abstain) := by
  rcases Outcome.exists_first_or_forall (p := (·.endsPoll c attributes)) voters
    with ⟨before, k, after, rfl, hbefore, hk⟩ | hnone
  · have hsafe : k.FailsSafely c attributes := hvoters k (by simp)
    have hgranted : (k.vote c attributes).value = .ok .granted :=
      hsafe.granted hk
    have hany : (before ++ k :: after).any (·.endsPoll c attributes) = true :=
      List.any_eq_true.mpr ⟨k, by simp, hk⟩
    rw [ask_of_endsPoll hbefore hk, if_pos hany]
    exact hgranted
  · have hany : voters.any (·.endsPoll c attributes) = false :=
      List.any_eq_false.mpr fun v hv => by simp [hnone v hv]
    rw [ask_of_forall_not_endsPoll hnone, hany, Bool.false_or]
    rfl

/-- The log of a poll consists of the reports of the voters that were asked. -/
theorem records_ask (voters : List Voter) (denied : Bool) :
    (ask c attributes denied voters).outcome.records =
      (voters.take (ask c attributes denied voters).asked).flatMap
        (Voter.report c attributes) := by
  rcases Outcome.exists_first_or_forall (p := (·.endsPoll c attributes)) voters
    with ⟨before, k, after, rfl, hbefore, hk⟩ | hnone
  · have htake : (before ++ k :: after).take (before.length + 1) =
        before ++ [k] := by
      simp [List.take_append]
    rw [ask_of_endsPoll hbefore hk, htake]
  · rw [ask_of_forall_not_endsPoll hnone, List.take_length]

/-- Where voters log no warnings of their own, their reports hold one for each
error of evaluation. -/
theorem warnings_flatMap_report {voters : List Voter}
    (hvoters : ∀ v ∈ voters, ∀ r ∈ (v.vote c attributes).records,
      r.level ≠ .warning) :
    (voters.flatMap (Voter.report c attributes)).filter
        (fun r => Level.warning.rank ≤ r.level.rank) =
      (voters.filterMap (·.evaluationError? c attributes)).map
        (failure c.request) := by
  induction voters with
  | nil => rfl
  | cons v voters ih =>
    rw [List.forall_mem_cons] at hvoters
    have hown : (v.vote c attributes).records.filter
        (fun r => Level.warning.rank ≤ r.level.rank) = [] := by
      rw [List.filter_eq_nil_iff]
      intro r hr
      have hlevel := hvoters.1 r hr
      cases hrank : r.level with
      | debug | info => decide
      | warning => exact absurd hrank hlevel
    rw [List.flatMap_cons, List.filter_append, ih hvoters.2, Voter.report,
      List.filter_append, hown, List.nil_append]
    cases herror : v.evaluationError? c attributes with
    | none => simp [herror]
    | some f => simp [herror, failure]

theorem decide_eq_ok_iff {m : Manager} {given : Option (List Attribute)} :
    m.decide c given = .ok () ↔
      (m.poll c given).outcome.value = .ok .granted ∨
        (m.poll c given).outcome.value = .ok .abstain ∧
          m.allowIfAllAbstain = true := by
  rw [decide, Outcome.bind_eq_ok_iff]
  constructor
  · rintro ⟨vote, hvote, hverdict⟩
    rw [hvote]
    cases vote with
    | granted => exact Or.inl rfl
    | abstain =>
      cases hallow : m.allowIfAllAbstain with
      | true => exact Or.inr ⟨rfl, rfl⟩
      | false => simp [verdict, hallow] at hverdict
    | denied => cases hverdict
  · rintro (hvote | ⟨hvote, hallow⟩)
    · exact ⟨.granted, hvote, rfl⟩
    · exact ⟨.abstain, hvote, by simp [verdict, hallow]⟩

theorem make_eq_ok {voters : List Voter} (hne : voters ≠ []) (allow : Bool) :
    make voters allow = .ok ⟨voters, allow⟩ := by
  rw [make, List.isEmpty_eq_false_iff.mpr hne]
  rfl

/-- The outcome of a poll of voters that fail safely does not depend on their
order. -/
theorem value_poll_perm {m m' : Manager} (hperm : m'.voters.Perm m.voters)
    (hsafe : ∀ v ∈ m.voters, v.FailsSafely c attributes) :
    (m'.poll c (some attributes)).outcome.value =
      (m.poll c (some attributes)).outcome.value := by
  have hsafe' : ∀ v ∈ m'.voters, v.FailsSafely c attributes :=
    fun v hv => hsafe v (hperm.mem_iff.mp hv)
  have hpoll := value_ask_of_failsSafely hsafe
  have hpoll' := value_ask_of_failsSafely hsafe'
  rw [hperm.any_eq, hperm.any_eq] at hpoll'
  exact hpoll'.trans hpoll.symm

/-- A poll of at least one voter ends with the first one that grants access or
raises an error other than one of evaluation, and has its outcome.  Without such
a voter it is a denial if somebody objects, and no opinion otherwise.  Each
voter up to the last one asked is reported once, in order, with one warning for
each error of evaluation.  A decision lets the request through exactly if the
poll grants access, or has no opinion and the manager is told to grant access
then.  Nobody is asked about a request that no rule governs.  If no voter raises
an error other than one of evaluation, the order of the voters has no
influence. -/
theorem poll_of_voters {voters : List Voter} (hne : voters ≠ [])
    (allow : Bool) :
    ∃ m : Manager, make voters allow = .ok m ∧
      ∀ (c : Context) (attributes : List Attribute),
        let poll := m.poll c (some attributes)
        (∀ before k after, voters = before ++ k :: after →
          (∀ v ∈ before, v.endsPoll c attributes = false) →
          k.endsPoll c attributes = true →
          poll.outcome.value = (k.vote c attributes).value ∧
            poll.asked = before.length + 1) ∧
        ((∀ v ∈ voters, v.endsPoll c attributes = false) →
          poll.outcome.value =
              .ok (if voters.any (·.objects c attributes) then .denied
                else .abstain) ∧
            poll.asked = voters.length) ∧
        poll.outcome.records =
          (voters.take poll.asked).flatMap (Voter.report c attributes) ∧
        ((∀ v ∈ voters, ∀ r ∈ (v.vote c attributes).records,
            r.level ≠ .warning) →
          poll.outcome.recordsFrom .warning =
            ((voters.take poll.asked).filterMap
              (·.evaluationError? c attributes)).map (failure c.request)) ∧
        (∀ given, m.decide c given = .ok () ↔
          (m.poll c given).outcome.value = .ok .granted ∨
            (m.poll c given).outcome.value = .ok .abstain ∧ allow = true) ∧
        m.poll c none = ⟨.quiet (.ok .abstain), 0⟩ ∧
        ((∀ v ∈ voters, v.FailsSafely c attributes) →
          ∀ (voters' : List Voter) (allow' : Bool) (m' : Manager),
            voters'.Perm voters → make voters' allow' = .ok m' →
            (m'.poll c (some attributes)).outcome.value =
              poll.outcome.value) := by
  refine ⟨⟨voters, allow⟩, make_eq_ok hne allow, ?_⟩
  intro c attributes poll
  refine ⟨?_, ?_, records_ask voters false, ?_, fun given => decide_eq_ok_iff,
    rfl, ?_⟩
  · rintro before k after rfl hbefore hk
    have hask := ask_of_endsPoll hbefore hk false after
    exact ⟨congrArg (·.outcome.value) hask, congrArg (·.asked) hask⟩
  · intro hnone
    have hask := ask_of_forall_not_endsPoll hnone false
    rw [Bool.false_or] at hask
    exact ⟨congrArg (·.outcome.value) hask, congrArg (·.asked) hask⟩
  · intro hquiet
    rw [Logged.recordsFrom, show poll.outcome.records = _ from
      records_ask voters false]
    exact warnings_flatMap_report fun v hv =>
      hquiet v (List.mem_of_mem_take hv)
  · intro hsafe voters' allow' m' hperm hm'
    have hne' : voters' ≠ [] := by
      rintro rfl
      exact hne (List.Perm.nil_eq hperm).symm
    rw [make_eq_ok hne' allow', Except.ok.injEq] at hm'
    subst hm'
    exact value_poll_perm hperm hsafe

/-- An error of evaluation and a denial stand before the error that ends the
poll, and a voter that would grant access behind it. -/
theorem poll_of_voters_mixed :
    let c : Context := ⟨⟨some "bob", [], false, false⟩, ⟨"GET", "/x", none⟩⟩
    let before : List Voter :=
      [.fixed (.ok .abstain), .fixed (.error (.noClientAddress "/x")),
        .fixed (.ok .denied)]
    let k : Voter := .fixed (.error .emptyAddress)
    let voters := before ++ k :: [.fixed (.ok .granted)]
    voters ≠ [] ∧
      ∃ m : Manager, make voters false = .ok m ∧
        (m.poll c (some [.token "A"])).outcome.value = .error .emptyAddress ∧
        (m.poll c (some [.token "A"])).asked = 4 ∧
        (m.poll c (some [.token "A"])).outcome.records =
          [failure c.request (.noClientAddress "/x")] ∧
        m.decide c (some [.token "A"]) ≠ .ok () := by
  intro c before k voters
  have hne : voters ≠ [] := by simp [voters, before]
  obtain ⟨m, hm, hpoll⟩ := poll_of_voters hne false
  obtain ⟨hends, -, hrecords, -, hdecide, -, -⟩ := hpoll c [.token "A"]
  have hbefore : ∀ v ∈ before, v.endsPoll c [.token "A"] = false := by
    simp only [before, List.forall_mem_cons]
    exact ⟨rfl, rfl, rfl, by simp⟩
  obtain ⟨hvalue, hasked⟩ := hends before k _ rfl hbefore rfl
  have hanswer : (m.poll c (some [.token "A"])).outcome.value =
      .error .emptyAddress := hvalue
  refine ⟨hne, m, hm, hanswer, hasked, ?_, ?_⟩
  · rw [hrecords, hasked]
    rfl
  · rw [ne_eq, hdecide, hanswer]
    simp

end Manager

end AccessRules
