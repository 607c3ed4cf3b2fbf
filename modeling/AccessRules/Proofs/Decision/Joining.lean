import AccessRules.Proofs.Decision.Conjunction
import AccessRules.Proofs.Expression.Operand
import AccessRules.Proofs.Expression.Whitelist

/-!
# Requirements joined by `and`

Several raw expressions can be asked for one by one, or as the operands of one
`and`.  The expression voter goes through the requirements as the evaluation
goes through the operands: from the left, up to the first that is false or
fails.

The two tell a value that is no truth value by different errors, as the result
of an expression and as an operand.  All other errors are the same, and all of
them are errors of evaluation, so a manager gives the same joint vote.
-/

namespace AccessRules

open Expression Outcome

variable {h : Handler} {c : Context} {env : Environment}
  {texts : List (Option String)} {ts : List Tree}

/-! ## Evaluation -/

/-- The errors of expressions that are evaluated one by one, and as the operands
of one `and`: both are the same, or complain about the value of one of the
expressions. -/
inductive SameFailure (env : Environment)
    (parts : List (Option String × Tree)) :
    Fault → Fault → Prop
  | same (f : Fault) : SameFailure env parts f f
  | kind {text : Option String} {t : Tree} {v : Literal}
      (hpart : (text, t) ∈ parts) (hv : t.eval env = .ok v)
      (hnot : ¬ v.IsTruth) :
      SameFailure env parts (.resultNotTruth v (text.getD ""))
        (.operandNotTruth v)

theorem SameFailure.cons {parts : List (Option String × Tree)} {f f' : Fault}
    (part : Option String × Tree) (hff' : SameFailure env parts f f') :
    SameFailure env (part :: parts) f f' := by
  cases hff' with
  | same => exact .same f
  | kind hpart hv hnot => exact .kind (List.mem_cons_of_mem part hpart) hv hnot

/-- An expression has the same value alone as it has as an operand. -/
theorem evaluate_agree_truthAsOperand {text : Option String} {t : Tree}
    {parts : List (Option String × Tree)} (hpart : (text, t) ∈ parts) :
    Agree (SameFailure env parts) (t.evaluate env (text.getD ""))
      (truthAsOperand env t) := by
  rw [Tree.evaluate, truthAsOperand]
  cases hv : t.eval env with
  | error f => exact .error (.same f)
  | ok v =>
    cases v with
    | truth b => exact .ok b
    | _ => exact .error (.kind hpart hv (by simp [Literal.IsTruth]))

theorem isEvaluation_of_evalAll_error {f : Fault}
    (haccepted : (Tree.conj ts).Accepted)
    (hf : Tree.evalAll env ts = .error f) :
    f.isEvaluation = true := by
  have heval : (Tree.conj ts).eval env = .error f := by
    rw [Tree.eval, map_eq_error_iff]
    exact hf
  exact (Tree.origin_of_eval_error haccepted heval).isEvaluation

theorem SameFailure.isEvaluation {parts : List (Option String × Tree)}
    {f f' : Fault} (hff' : SameFailure env parts f f')
    (hf' : f'.isEvaluation = true) :
    f.isEvaluation = true := by
  cases hff' with
  | same => exact hf'
  | kind => rfl

/-! ## Votes -/

/-- The vote on a requirement that holds or does not. -/
def Vote.ofTruth (b : Bool) : Vote :=
  if b then .granted else .denied

namespace Voter

theorem value_voteOn_cons (r : Requirement) (rs : List Requirement) :
    (voteOn h c (r :: rs)).value =
      h.evaluate c r >>= fun b =>
        if b then (voteOn h c rs).value else .ok .denied := by
  rw [voteOn]
  cases h.evaluate c r with
  | error f => rfl
  | ok b => cases b <;> rfl

theorem value_voteOn_singleton (r : Requirement) :
    (voteOn h c [r]).value = (h.evaluate c r).map Vote.ofTruth := by
  rw [value_voteOn_cons]
  cases h.evaluate c r with
  | error f => rfl
  | ok b => cases b <;> rfl

/-- A vote on expressions goes as far as the evaluation of them as the operands
of `and`. -/
theorem voteOn_agree_evalAll
    (htexts : List.Forall₂ (fun text t => compile text = .ok t) texts ts) :
    Agree (SameFailure (h.environment c) (texts.zip ts))
      (voteOn h c (texts.map .raw)).value
      ((Tree.evalAll (h.environment c) ts).map Vote.ofTruth) := by
  induction htexts with
  | nil => exact .ok Vote.granted
  | @cons text t texts ts ht _ ih =>
    have hhead :
        Agree (SameFailure (h.environment c) ((text, t) :: texts.zip ts))
        (h.evaluate c (.raw text)) (truthAsOperand (h.environment c) t) := by
      rw [Handler.evaluate_raw c ht]
      exact evaluate_agree_truthAsOperand List.mem_cons_self
    have hjoined : (Tree.evalAll (h.environment c) (t :: ts)).map Vote.ofTruth =
        truthAsOperand (h.environment c) t >>= fun b =>
          if b then (Tree.evalAll (h.environment c) ts).map Vote.ofTruth
          else .ok .denied := by
      rw [evalAll_cons]
      cases truthAsOperand (h.environment c) t with
      | error f => rfl
      | ok b => cases b <;> rfl
    rw [List.map_cons, value_voteOn_cons, hjoined, List.zip_cons_cons]
    apply hhead.bind
    intro b
    cases b with
    | true => exact ih.imp fun _ _ hff' => hff'.cons (text, t)
    | false => exact .ok Vote.denied

theorem value_vote_raw (texts : List (Option String)) (hne : texts ≠ []) :
    ((expression h).vote c
      (texts.map fun text => .requirement (.raw text))).value =
        (voteOn h c (texts.map .raw)).value := by
  have hrequirements : (texts.map fun text =>
      Attribute.requirement (.raw text)).filterMap Attribute.requirement? =
        texts.map .raw := by
    rw [List.filterMap_map]
    exact congrFun List.filterMap_eq_map texts
  rw [vote_expression_of_ne_nil, hrequirements]
  rw [hrequirements]
  simpa using hne

end Voter

namespace Manager

variable {m : Manager}

/-- Attributes for which the votes agree and fail safely have the same joint
vote. -/
theorem exists_poll_of_agree {v : Voter} (hm : m.voters = [v])
    {attributes others : List Attribute} {alike : Fault → Fault → Prop}
    (hagree : Agree alike (v.vote c attributes).value (v.vote c others).value)
    (hsafe : v.FailsSafely c attributes) (hsafe' : v.FailsSafely c others) :
    ∃ vote, (m.poll c (some attributes)).outcome.value = .ok vote ∧
      (m.poll c (some others)).outcome.value = .ok vote := by
  rw [value_poll_single hm, value_poll_single hm]
  unfold Voter.FailsSafely at hsafe hsafe'
  generalize (v.vote c attributes).value = x at hagree hsafe ⊢
  generalize (v.vote c others).value = y at hagree hsafe' ⊢
  cases hagree with
  | ok vote => exact ⟨vote, rfl, rfl⟩
  | error => exact ⟨.denied, by simp [hsafe _ rfl], by simp [hsafe' _ rfl]⟩

/-- Raw expressions have the same joint vote as the one raw expression that
joins them by `and`, and the same decision about the request.

The expression voter itself gives the same vote to both, or fails for both with
errors of evaluation, which are the same unless they complain that the value of
one expression is no truth value.

Escapes by name are not read, and those of surrogates all give the replacement
character; see `Expression.Escape.read`. -/
theorem poll_joined {h : Handler} (hm : m.voters = [.expression h])
    (hne : ts ≠ [])
    (htexts : List.Forall₂ (fun text t => compile text = .ok t) texts ts)
    {whole : Option String} (hwhole : compile whole = .ok (.conj ts))
    (c : Context) :
    let apart : List Attribute := texts.map fun text => .requirement (.raw text)
    let joined : List Attribute := [.requirement (.raw whole)]
    let vote (as : List Attribute) := ((Voter.expression h).vote c as).value
    (∃ v, (m.poll c (some apart)).outcome.value = .ok v ∧
      (m.poll c (some joined)).outcome.value = .ok v) ∧
    m.decide c (some apart) = m.decide c (some joined) ∧
    Agree (SameFailure (h.environment c) (texts.zip ts))
      (vote apart) (vote joined) ∧
    (Voter.expression h).FailsSafely c apart ∧
    (Voter.expression h).FailsSafely c joined := by
  intro apart joined vote
  have hjoined : vote joined =
      (Tree.evalAll (h.environment c) ts).map Vote.ofTruth := by
    have hraw : vote joined = (Voter.voteOn h c [.raw whole]).value :=
      Voter.value_vote_raw [whole] (List.cons_ne_nil _ _)
    rw [hraw, Voter.value_voteOn_singleton, Handler.evaluate_raw c hwhole,
      evaluate_conj]
  have hagree : Agree (SameFailure (h.environment c) (texts.zip ts))
      (vote apart) (vote joined) := by
    have htexts' : texts ≠ [] := by
      rintro rfl
      exact hne (List.forall₂_nil_left_iff.mp htexts)
    have hraw : vote apart = (Voter.voteOn h c (texts.map .raw)).value :=
      Voter.value_vote_raw texts htexts'
    rw [hraw, hjoined]
    exact Voter.voteOn_agree_evalAll htexts
  have hsafe : (Voter.expression h).FailsSafely c joined := by
    intro f hf
    change vote joined = _ at hf
    rw [hjoined, map_eq_error_iff] at hf
    exact isEvaluation_of_evalAll_error (accepted_of_compile hwhole) hf
  have hsafe' : (Voter.expression h).FailsSafely c apart := by
    intro f hf
    obtain ⟨f', hf', hsame⟩ := hagree.exists_error hf
    exact hsame.isEvaluation (hsafe f' hf')
  have hpoll := exists_poll_of_agree hm hagree hsafe' hsafe
  refine ⟨hpoll, ?_, hagree, hsafe', hsafe⟩
  obtain ⟨v, hapart, hv⟩ := hpoll
  rw [decide, decide, hapart, hv]

/-- A name in the middle whose value is no truth value.  The voter fails with
another error for it alone than for the joined expression. -/
theorem poll_joined_principal :
    let h := Handler.make .standard []
    let m : Manager := ⟨[.expression h], true⟩
    let c : Context := ⟨⟨some "bob", [], false, false⟩, ⟨"GET", "/x", none⟩⟩
    let texts := [some "not denyAll", some "principal", some "denyAll"]
    let ts : List Tree :=
      [.negation (.name "denyAll"), .name "principal", .name "denyAll"]
    let whole := some "not denyAll and principal and denyAll"
    let apart : List Attribute := texts.map fun text => .requirement (.raw text)
    m.voters = [.expression h] ∧ ts ≠ [] ∧
      List.Forall₂ (fun text t => compile text = .ok t) texts ts ∧
      compile whole = .ok (.conj ts) ∧
      (m.poll c (some apart)).outcome.value = .ok .denied ∧
      (m.poll c (some [.requirement (.raw whole)])).outcome.value =
        .ok .denied ∧
      ((Voter.expression h).vote c apart).value =
        .error (.resultNotTruth (.text "bob") "principal") ∧
      ((Voter.expression h).vote c [.requirement (.raw whole)]).value =
        .error (.operandNotTruth (.text "bob")) := by
  intro h m c texts ts whole apart
  have hm : m.voters = [.expression h] := rfl
  have hne : ts ≠ [] := List.cons_ne_nil _ _
  have hnot : compile (some "not denyAll") =
      .ok (.negation (.name "denyAll")) := by decide +kernel
  have hprincipal : compile (some "principal") = .ok (.name "principal") := by
    decide +kernel
  have hdeny : compile (some "denyAll") = .ok (.name "denyAll") := by
    decide +kernel
  have hwhole : compile whole = .ok (.conj ts) := by decide +kernel
  have htexts : List.Forall₂ (fun text t => compile text = .ok t) texts ts :=
    .cons hnot (.cons hprincipal (.cons hdeny .nil))
  have hapart : ((Voter.expression h).vote c apart).value =
      .error (.resultNotTruth (.text "bob") "principal") := by
    have hraw : ((Voter.expression h).vote c apart).value =
        (Voter.voteOn h c (texts.map .raw)).value :=
      Voter.value_vote_raw texts (List.cons_ne_nil _ _)
    rw [hraw, List.map_cons, Voter.value_voteOn_cons,
      Handler.evaluate_raw c hnot, List.map_cons, Voter.value_voteOn_cons,
      Handler.evaluate_raw c hprincipal]
    rfl
  have hjoined : ((Voter.expression h).vote c
      [.requirement (.raw whole)]).value =
        .error (.operandNotTruth (.text "bob")) := by
    have hraw : ((Voter.expression h).vote c
        [.requirement (.raw whole)]).value =
          (Voter.voteOn h c [.raw whole]).value :=
      Voter.value_vote_raw [whole] (List.cons_ne_nil _ _)
    rw [hraw, Voter.value_voteOn_singleton, Handler.evaluate_raw c hwhole]
    rfl
  -- the voters are forgotten, so that nothing evaluates the polls to compare
  -- them
  clear_value m
  have hdenied : (m.poll c (some apart)).outcome.value = .ok .denied := by
    rw [value_poll_single hm, hapart]
    rfl
  obtain ⟨⟨v, hv, hv'⟩, -⟩ := poll_joined hm hne htexts hwhole c
  obtain rfl : v = .denied := Except.ok.inj (hv.symm.trans hdenied)
  exact ⟨hm, hne, htexts, hwhole, hdenied, hv', hapart, hjoined⟩

end Manager

end AccessRules
