import AccessRules.Proofs.Expression.Dependence
import AccessRules.Proofs.Handler.Evaluation

/-!
# What the outcome of an expression depends on

A handler gives an expression its meaning by the built-in functions, the
functions that were added, and the context.  Of all these only what the
expression refers to has any influence: functions that it does not call can be
added without changing its validation or its evaluation.

Of a request the built-in functions look at nothing but the address of the
client, and only `hasIpAddress` does.  Where there is no address, the details of
its error show the path of the request as well.
-/

namespace AccessRules

open Outcome

/-- Faults that users see as errors of one kind with one message.  Their details
may differ. -/
inductive Fault.Alike : Fault → Fault → Prop
  | refl (f : Fault) : Alike f f
  | reported {f g : Fault} {r s : Report} (hf : f.report? = some r)
      (hg : g.report? = some s) (hkind : r.kind = s.kind)
      (hmessage : r.message = s.message) :
      Alike f g

/-- Faults that are alike are still alike as failures of a call. -/
theorem Fault.Alike.toFault {f g : Fault} (h : f.Alike g) (name : String) :
    ((Expression.CallFailure.fault f).toFault name).Alike
      ((Expression.CallFailure.fault g).toFault name) := by
  cases h with
  | refl => exact .refl _
  | @reported _ r s hf hg hkind hmessage =>
    have hevaluation : f.isEvaluation = g.isEvaluation := by
      simp only [isEvaluation, hf, hg, hkind]
    have hsame : f.message = g.message := by
      simp only [message, hf, hg, hmessage]
    rw [Expression.CallFailure.toFault, Expression.CallFailure.toFault,
      hevaluation]
    split
    · exact .reported hf hg hkind hmessage
    · simp only [hf, hg, hkind, hsame, Option.map_some]
      exact .refl _

namespace Handler

open Expression (CallFailure Environment Function Tree)

/-! ## Further functions -/

/-- The handler with further functions.  They take the places of functions with
the same names. -/
def withFunctions (h : Handler) (added : List (String × ExtraFunction)) :
    Handler :=
  { h with extra := added ++ h.extra }

section

variable {h : Handler} {added : List (String × ExtraFunction)} {t : Tree}

theorem lookup_withFunctions {f : String} (hf : ∀ e ∈ added, e.1 ≠ f) :
    (h.withFunctions added).extra.lookup f = h.extra.lookup f := by
  have hnone : added.lookup f = none := by
    rw [List.lookup_eq_none_iff]
    intro e he
    simpa using (hf e he).symm
  rw [withFunctions, List.lookup_append, hnone, Option.none_or]

theorem grantsAnyRole_withFunctions (s : Security) (args : List Literal) :
    (h.withFunctions added).grantsAnyRole s args = h.grantsAnyRole s args := by
  induction args with
  | nil => rfl
  | cons v args ih =>
    rw [grantsAnyRole, grantsAnyRole, ih]
    rfl

theorem builtin?_withFunctions (c : Context) (f : String) :
    (h.withFunctions added).builtin? c f = h.builtin? c f := by
  have hroles : (h.withFunctions added).grantsAnyRole = h.grantsAnyRole :=
    funext₂ grantsAnyRole_withFunctions
  simp only [builtin?, hroles]
  rfl

theorem functions_withFunctions {f : String} (hf : ∀ e ∈ added, e.1 ≠ f)
    (c : Context) :
    ((h.withFunctions added).environment c).functions f =
      (h.environment c).functions f := by
  simp only [environment, lookup_withFunctions hf, builtin?_withFunctions]

theorem overrides_withFunctions {f : String} (hf : ∀ e ∈ added, e.1 ≠ f) :
    (h.withFunctions added).overrides f = h.overrides f := by
  rw [overrides, lookup_withFunctions hf, overrides]

theorem mem_functionNames_withFunctions {f : String}
    (hf : ∀ e ∈ added, e.1 ≠ f) :
    f ∈ (h.withFunctions added).functionNames ↔ f ∈ h.functionNames := by
  have hnew : f ∉ added.map (·.1) := by
    rintro hmem
    obtain ⟨e, he, rfl⟩ := List.mem_map.mp hmem
    exact hf e he rfl
  simp [functionNames, Text.mem_sortTexts, withFunctions, hnew]

/-! ## Validation -/

theorem checkNames_congr {known known' names : List String}
    (hknown : ∀ x ∈ names, x ∈ known ↔ x ∈ known')
    (fault : List String → Fault) :
    checkNames known names fault = checkNames known' names fault := by
  have hunknown : names.filter (!known.contains ·) =
      names.filter (!known'.contains ·) := by
    apply List.filter_congr
    intro x hx
    rw [List.contains_eq_mem, List.contains_eq_mem,
      decide_eq_decide.mpr (hknown x hx)]
  rw [checkNames, checkNames, hunknown]

/-- The texts of a function that is not called are never checked. -/
theorem checkTexts_of_not_mem {f : String} (hf : f ∉ t.functionNames)
    (text : String) :
    checkTexts t text f = .ok () := by
  rw [checkTexts, Tree.callArguments_eq_nil hf]
  rfl

/-- A check does not see functions that its tree does not call. -/
theorem checkTree_withFunctions (hadded : ∀ e ∈ added, e.1 ∉ t.functionNames)
    (text : String) :
    (h.withFunctions added).checkTree t text = h.checkTree t text := by
  have hne : ∀ f ∈ t.functionNames, ∀ e ∈ added, e.1 ≠ f := by
    rintro f hf e he rfl
    exact hadded e he hf
  have hnames : checkNames (h.withFunctions added).functionNames
      t.functionNames (.unknownFunctions · text) =
      checkNames h.functionNames t.functionNames (.unknownFunctions · text) :=
    checkNames_congr (fun f hf => mem_functionNames_withFunctions (hne f hf)) _
  have htexts : (textFunctions.filter
      (!(h.withFunctions added).overrides ·)).forM (checkTexts t text) =
      (textFunctions.filter (!h.overrides ·)).forM (checkTexts t text) := by
    apply forM_filter_congr
    intro f _
    by_cases hf : f ∈ t.functionNames
    · exact Or.inl (by rw [overrides_withFunctions (hne f hf)])
    · exact Or.inr (checkTexts_of_not_mem hf text)
  have hsubnets :
      (if (h.withFunctions added).overrides "hasIpAddress" then .ok ()
        else checkSubnets (t.callArguments "hasIpAddress").flatten) =
      if h.overrides "hasIpAddress" then .ok ()
        else checkSubnets (t.callArguments "hasIpAddress").flatten := by
    by_cases hf : "hasIpAddress" ∈ t.functionNames
    · rw [overrides_withFunctions (hne _ hf)]
    · rw [Tree.callArguments_eq_nil hf]
      exact (ite_self _).trans (ite_self _).symm
  rw [checkTree, checkTree, hnames, htexts, hsubnets]

end

/-! ## Requests -/

section

variable {h : Handler} {c c' : Context}

/-- All built-in functions but one look at the security of a context only. -/
theorem builtin?_eq_of_security (hsecurity : c'.security = c.security)
    {f : String} (hf : f ≠ "hasIpAddress") :
    h.builtin? c' f = h.builtin? c f := by
  unfold builtin?
  dsimp only
  rw [hsecurity]
  split
  case h_5 => exact absurd rfl hf
  all_goals rfl

theorem clientIn_agree
    (haddress : c'.request.remoteAddress = c.request.remoteAddress)
    (s : Network.Subnet) :
    Agree Fault.Alike (clientIn c s) (clientIn c' s) := by
  rw [clientIn, clientIn, haddress]
  cases c.request.remoteAddress with
  | some client => exact .ok _
  | none => exact .error (.reported rfl rfl rfl rfl)

/-- Of a request, the functions of a handler look at the address of the client
only. -/
theorem call_agree {f : String} (hf : h.overrides f = false)
    (hsecurity : c'.security = c.security)
    (haddress : c'.request.remoteAddress = c.request.remoteAddress)
    (args : List Literal) :
    Agree Fault.Alike ((h.environment c).call f args)
      ((h.environment c').call f args) := by
  have hfunctions := functions_of_overrides_eq_false hf
  by_cases hname : f = "hasIpAddress"
  · subst hname
    rw [Environment.call_eq (hfunctions c), Environment.call_eq (hfunctions c')]
    match args with
    | [v] =>
      cases hsubnet : subnetOf v with
      | error e =>
        simp only [Function.call, unary, hsubnet]
        exact .refl .refl _
      | ok subnet =>
        have hclient : Agree (fun e e' : CallFailure =>
            (e.toFault "hasIpAddress").Alike (e'.toFault "hasIpAddress"))
            ((clientIn c subnet).mapError .fault)
            ((clientIn c' subnet).mapError .fault) :=
          (clientIn_agree haddress subnet).mapError fun _ _ he => he.toFault _
        simp only [Function.call, unary, hsubnet]
        exact (hclient.map Literal.truth).mapError fun _ _ he => he
    | [] | _ :: _ :: _ => exact .error (.refl _)
  · have hsame : (h.environment c).functions f =
        (h.environment c').functions f := by
      rw [hfunctions, hfunctions, builtin?_eq_of_security hsecurity hname]
    rw [Environment.call_eq_of_functions_eq hsame]
    exact .refl .refl _

end

/-! ## Expressions -/

section

variable {h h' : Handler} {c c' : Context} {text : Option String}

/-- Evaluations of one text agree if those of its tree do. -/
theorem evaluate_raw_agree {alike : Fault → Fault → Prop}
    (halike : ∀ f, alike f f)
    (htree : ∀ t, Expression.compile text = .ok t →
      Agree alike (t.evaluate (h.environment c) (text.getD ""))
        (t.evaluate (h'.environment c') (text.getD ""))) :
    Agree alike (h.evaluate c (.raw text)) (h'.evaluate c' (.raw text)) := by
  rw [evaluate, evaluate, evaluateText, evaluateText]
  cases ht : Expression.compile text with
  | error f => exact .error (halike f)
  | ok t => exact htree t ht

theorem evaluate_raw_eq_of_names
    (hfunctions : ∀ f, Expression.Calls text f →
      (h.environment c).functions f = (h'.environment c').functions f)
    (hvalues : (h.environment c).values = (h'.environment c').values) :
    h.evaluate c (.raw text) = h'.evaluate c' (.raw text) := by
  refine agree_eq_iff.mp (evaluate_raw_agree (fun _ => rfl) fun t ht => ?_)
  exact agree_eq_iff.mpr (Tree.evaluate_eq_of_names
    (Expression.accepted_of_compile ht) (fun f hf => hfunctions f ⟨t, ht, hf⟩)
    (fun x _ => congrFun hvalues x) _)

variable {added : List (String × ExtraFunction)}

theorem validate_withFunctions
    (hadded : ∀ e ∈ added, ¬ Expression.Calls text e.1) :
    (h.withFunctions added).validate (.requirement (.raw text)) =
      h.validate (.requirement (.raw text)) := by
  rw [validate, validate]
  cases ht : Expression.compile text with
  | error f => rfl
  | ok t =>
    exact checkTree_withFunctions
      (fun e he hf => hadded e he ⟨t, ht, hf⟩) (text.getD "")

theorem evaluate_withFunctions
    (hadded : ∀ e ∈ added, ¬ Expression.Calls text e.1) (c : Context) :
    (h.withFunctions added).evaluate c (.raw text) =
      h.evaluate c (.raw text) := by
  refine evaluate_raw_eq_of_names (fun f hf => ?_) rfl
  apply functions_withFunctions
  rintro e he rfl
  exact hadded e he hf

theorem overrides_of_extra_eq_nil (hextra : h.extra = []) (f : String) :
    h.overrides f = false := by
  rw [overrides, hextra]
  rfl

/-- Without a call of `hasIpAddress`, the request does not matter. -/
theorem evaluate_eq_of_not_calls (hextra : h.extra = [])
    (hsecurity : c'.security = c.security)
    (haddress : ¬ Expression.Calls text "hasIpAddress") :
    h.evaluate c' (.raw text) = h.evaluate c (.raw text) := by
  refine evaluate_raw_eq_of_names (fun f hf => ?_)
    (congrArg valueOf? hsecurity)
  have hbuiltin := overrides_of_extra_eq_nil hextra f
  rw [functions_of_overrides_eq_false hbuiltin,
    functions_of_overrides_eq_false hbuiltin]
  apply builtin?_eq_of_security hsecurity
  rintro rfl
  exact haddress hf

/-- With the same address of the client, requests have outcomes that users
cannot tell apart by kind and message. -/
theorem evaluate_agree_of_address (hextra : h.extra = [])
    (hsecurity : c'.security = c.security)
    (haddress : c'.request.remoteAddress = c.request.remoteAddress) :
    Agree Fault.Alike (h.evaluate c (.raw text))
      (h.evaluate c' (.raw text)) := by
  refine evaluate_raw_agree .refl fun t ht => ?_
  refine Tree.evaluate_agree .refl (Expression.accepted_of_compile ht) ?_ ?_ _
  · intro f args _
    exact call_agree (overrides_of_extra_eq_nil hextra f) hsecurity
      haddress args
  · intro x _
    rw [environment, environment, hsecurity]

end

/-- The names that are collected from an expression are those that it calls and
those that it uses otherwise, and its outcome depends on their functions and
values alone.  Functions that it does not call can be added without changing it,
and without added functions it does not depend on the request, the address of
the client apart.

Escapes by name are not read, and those of surrogates all give the replacement
character; see `Expression.Escape.read`. -/
theorem outcome_depends_on_references (text : Option String) :
    (∀ t, Expression.compile text = .ok t →
      (∀ f, f ∈ t.functionNames ↔ ∃ args, t.HasCall f args) ∧
      (∀ x, x ∈ t.variableNames ↔ t.Contains (.name x)) ∧
      ∀ env env' : Environment,
        (∀ f ∈ t.functionNames, env.functions f = env'.functions f) →
        (∀ x ∈ t.variableNames, env.values x = env'.values x) →
        ∀ shown, t.evaluate env shown = t.evaluate env' shown) ∧
    (∀ (h : Handler) (added : List (String × ExtraFunction)),
      (∀ e ∈ added, ¬ Expression.Calls text e.1) →
      (h.withFunctions added).validate (.requirement (.raw text)) =
          h.validate (.requirement (.raw text)) ∧
        ∀ c, (h.withFunctions added).evaluate c (.raw text) =
          h.evaluate c (.raw text)) ∧
    ∀ h : Handler, h.extra = [] → ∀ c c', c'.security = c.security →
      (¬ Expression.Calls text "hasIpAddress" →
        h.evaluate c' (.raw text) = h.evaluate c (.raw text)) ∧
      (c'.request.remoteAddress = c.request.remoteAddress →
        Agree Fault.Alike (h.evaluate c (.raw text))
          (h.evaluate c' (.raw text))) := by
  refine ⟨?_, ?_, ?_⟩
  · intro t ht
    have haccepted := Expression.accepted_of_compile ht
    refine ⟨fun f => haccepted.mem_functionNames_iff,
      fun x => Tree.mem_variableNames_iff, ?_⟩
    intro env env' hfunctions hvalues shown
    exact Tree.evaluate_eq_of_names haccepted hfunctions hvalues shown
  · intro h added hadded
    exact ⟨validate_withFunctions hadded, evaluate_withFunctions hadded⟩
  · intro h hextra c c' hsecurity
    exact ⟨evaluate_eq_of_not_calls hextra hsecurity,
      evaluate_agree_of_address hextra hsecurity⟩

/-- A name that is called and also stands for a value is referred to in both
ways. -/
example :
    (Expression.compile (some "not isOwner('a') or isOwner == principal")).map
      (fun t => (t.functionNames, t.variableNames)) =
    .ok (["isOwner"], ["isOwner", "principal"]) := by
  decide +kernel

end Handler

end AccessRules
