import AccessRules.Proofs.Requirement.Agreement

/-!
# Functions that ask for one of several

Two built-in functions take any number of roles or authorities, and hold if one
of them is granted.  They are the alternatives of the functions that take a
single one: both check their arguments from the left, and both stop at the first
argument that is granted or that the check fails for.

A failure of the check is an error of evaluation.  Such an error does not name
the function that it was raised in, so it is the same in both.  A number with
too many digits is the exception: it cannot be shown, and this is reported with
the name of the function.
-/

namespace AccessRules

open Expression (CallFailure Environment Function Tree compile)
open Outcome

/-- The call of a function with literals as arguments. -/
def literalCall (f : String) (args : List Literal) : Tree :=
  .call (.name f) (args.map .constant) false

namespace Handler

/-- The built-in functions that ask for one of several, each with the one that
asks for a single one. -/
def alternatives : List (String × String) :=
  [("hasAnyRole", "hasRole"), ("hasAnyAuthority", "hasAuthority")]

/-- Two trees have the same outcome in every context, whatever texts they are
compiled from. -/
def SameOutcome (h : Handler) (t u : Tree) : Prop :=
  ∀ c text text', compile text = .ok t → compile text' = .ok u →
    h.evaluate c (.raw text) = h.evaluate c (.raw text')

/-- Whether a check holds for one of some arguments.  Those after it are not
checked. -/
def anyHolds (check : Literal → Except CallFailure Bool) :
    List Literal → Except CallFailure Bool
  | [] => .ok false
  | v :: vs => do
    let b ← check v
    if b then .ok true else anyHolds check vs

/-- A function asks for one of several what another one asks for its only
argument. -/
structure AsksForAny (env : Environment) (several single : String)
    (check : Literal → Except CallFailure Bool) (holds : String → Bool) :
    Prop where
  several : env.functions several =
    some fun vs => (anyHolds check vs).map .truth
  single : env.functions single = some (unary single check)
  texts : ∀ s, check (.text s) = .ok (holds s)
  failures : ∀ v e, v.isShowable = true → check v = .error e →
    ∃ f, e = .fault f ∧ f.isEvaluation = true

/-! ## The two pairs of functions -/

/-- The authority that a role is kept as. -/
def prefixed (h : Handler) (r : String) : String :=
  if h.rolePrefix.toList.isPrefixOf r.toList then r else h.rolePrefix ++ r

section

variable {h : Handler} {c : Context} {s : Security} {several single : String}

theorem grantsAnyRole_eq_anyHolds (args : List Literal) :
    h.grantsAnyRole s args =
      anyHolds (fun v => (h.roleAuthority v).map s.hasAuthority) args := by
  induction args with
  | nil => rfl
  | cons v args ih =>
    rw [grantsAnyRole, anyHolds, ih]
    cases h.roleAuthority v with
    | ok a => rfl
    | error e => rfl

/-- For arguments that a check cannot fail for, all that counts is whether it
holds for one of them. -/
theorem anyHolds_map {α : Type} {check : Literal → Except CallFailure Bool}
    (argument : α → Literal) {p : α → Bool}
    (hcheck : ∀ a, check (argument a) = .ok (p a)) (as : List α) :
    anyHolds check (as.map argument) = .ok (as.any p) := by
  induction as with
  | nil => rfl
  | cons a as ih =>
    rw [List.map_cons, anyHolds, hcheck, ih, List.any_cons]
    by_cases ha : p a = true
    · rw [ha]
      rfl
    · rw [eq_false_of_ne_true ha]
      rfl

theorem roleAuthority_error {v : Literal} {e : CallFailure}
    (hshow : v.isShowable = true) (he : h.roleAuthority v = .error e) :
    e = .fault (.roleNotText v) := by
  cases v with
  | text r => cases he
  | _ =>
    rw [roleAuthority, if_pos hshow] at he
    · exact (Except.error.inj he).symm
    · intro r hr
      cases hr

theorem asksForAny_roles (hseveral : h.overrides "hasAnyRole" = false)
    (hsingle : h.overrides "hasRole" = false) :
    AsksForAny (h.environment c) "hasAnyRole" "hasRole"
      (fun v => (h.roleAuthority v).map c.security.hasAuthority)
      (fun r => c.security.hasAuthority (h.prefixed r)) where
  several := by
    rw [functions_of_overrides_eq_false hseveral]
    simp only [← grantsAnyRole_eq_anyHolds]
    rfl
  single := functions_of_overrides_eq_false hsingle c
  texts := fun _ => rfl
  failures := by
    intro v e hshow he
    obtain rfl := roleAuthority_error hshow (map_eq_error_iff.mp he)
    exact ⟨_, rfl, rfl⟩

theorem asksForAny_authorities
    (hseveral : h.overrides "hasAnyAuthority" = false)
    (hsingle : h.overrides "hasAuthority" = false) :
    AsksForAny (h.environment c) "hasAnyAuthority" "hasAuthority"
      (fun v => .ok (grants c.security v)) c.security.hasAuthority where
  several := by
    have hany (vs : List Literal) :
        anyHolds (fun v => .ok (grants c.security v)) vs =
          .ok (vs.any (grants c.security)) := by
      simpa using anyHolds_map id (fun v => rfl) vs
    rw [functions_of_overrides_eq_false hseveral]
    simp only [hany]
    rfl
  single := functions_of_overrides_eq_false hsingle c
  texts := fun _ => rfl
  failures := by
    intro v e _ he
    cases he

theorem exists_asksForAny (hpair : (several, single) ∈ alternatives)
    (hseveral : h.overrides several = false)
    (hsingle : h.overrides single = false) (c : Context) :
    ∃ check holds,
      AsksForAny (h.environment c) several single check holds := by
  simp only [alternatives, List.mem_cons, List.not_mem_nil, or_false,
    Prod.mk.injEq] at hpair
  rcases hpair with ⟨rfl, rfl⟩ | ⟨rfl, rfl⟩
  · exact ⟨_, _, asksForAny_roles hseveral hsingle⟩
  · exact ⟨_, _, asksForAny_authorities hseveral hsingle⟩

end

/-! ## Calls of such functions -/

namespace AsksForAny

variable {env : Environment} {several single : String}
  {check : Literal → Except CallFailure Bool} {holds : String → Bool}

theorem eval_several (ha : AsksForAny env several single check holds)
    (args : List Literal) :
    (literalCall several args).eval env =
      ((anyHolds check args).mapError (·.toFault several)).map .truth := by
  rw [literalCall, Tree.eval_call, Environment.call_eq ha.several,
    Function.call]
  cases anyHolds check args with
  | ok b => rfl
  | error e => rfl

theorem eval_single (ha : AsksForAny env several single check holds)
    (v : Literal) :
    (literalCall single [v]).eval env =
      ((check v).mapError (·.toFault single)).map .truth := by
  rw [literalCall, Tree.eval_call, Environment.call_eq ha.single,
    Function.call, unary]
  cases check v with
  | ok b => rfl
  | error e => rfl

/-- Where a check fails, both functions fail with the same error. -/
theorem mapError_toFault (ha : AsksForAny env several single check holds)
    {v : Literal} (hshow : v.isShowable = true) :
    (check v).mapError (·.toFault single) =
      (check v).mapError (·.toFault several) := by
  cases hv : check v with
  | ok b => rfl
  | error e =>
    obtain ⟨f, rfl, hf⟩ := ha.failures v e hshow hv
    simp only [Except.mapError, CallFailure.toFault, if_pos hf]

theorem evalAny_single (ha : AsksForAny env several single check holds)
    {args : List Literal} (hshow : ∀ a ∈ args, a.isShowable = true) :
    Tree.evalAny env (args.map fun a => literalCall single [a]) =
      (anyHolds check args).mapError (·.toFault several) := by
  induction args with
  | nil => rfl
  | cons v args ih =>
    obtain ⟨hv, hargs⟩ := List.forall_mem_cons.mp hshow
    rw [List.map_cons, evalAny_cons, truthAsOperand_of_eval (ha.eval_single v),
      ha.mapError_toFault hv, ih hargs, anyHolds]
    cases check v with
    | error e => rfl
    | ok b => cases b <;> rfl

/-- The disjunction of the single calls has the value of the call with all
arguments. -/
theorem eval_disj (ha : AsksForAny env several single check holds)
    {args : List Literal} (hshow : ∀ a ∈ args, a.isShowable = true) :
    (Tree.disj (args.map fun a => literalCall single [a])).eval env =
      (literalCall several args).eval env := by
  rw [Tree.eval, ha.evalAny_single hshow, ha.eval_several]

theorem eval_singleton (ha : AsksForAny env several single check holds)
    {v : Literal} (hshow : v.isShowable = true) :
    (literalCall single [v]).eval env =
      (literalCall several [v]).eval env := by
  rw [ha.eval_single, ha.mapError_toFault hshow, ha.eval_several, anyHolds]
  cases check v with
  | error e => rfl
  | ok b => cases b <;> rfl

theorem eval_texts (ha : AsksForAny env several single check holds)
    (ss : List String) :
    (literalCall several (ss.map .text)).eval env =
      .ok (.truth (ss.any holds)) := by
  rw [ha.eval_several, anyHolds_map .text ha.texts]
  rfl

end AsksForAny

/-! ## Outcomes -/

section

variable {h : Handler} {several single : String}

/-- A tree with the value of a call in every context has the same outcome. -/
theorem sameOutcome_of_eval {args : List Literal} {t : Tree}
    (heval : ∀ c, ∃ check holds,
      AsksForAny (h.environment c) several single check holds ∧
        t.eval (h.environment c) =
          (literalCall several args).eval (h.environment c)) :
    h.SameOutcome (literalCall several args) t := by
  intro c text text' hcall ht
  obtain ⟨check, holds, ha, hsame⟩ := heval c
  have hvalue := ha.eval_several args
  rw [evaluate_raw c hcall, evaluate_raw c ht, evaluate_of_eval hvalue,
    evaluate_of_eval (hsame.trans hvalue)]

theorem any_eq_of_mem_iff {ss ss' : List String}
    (hmem : ∀ s, s ∈ ss ↔ s ∈ ss') (holds : String → Bool) :
    ss'.any holds = ss.any holds := by
  rw [Bool.eq_iff_iff, List.any_eq_true, List.any_eq_true]
  simp only [hmem]

/-- A role to which the prefix is given stands for the same authority. -/
theorem prefixed_prefix_append {s : String}
    (hs : h.rolePrefix.toList.isPrefixOf s.toList = false) :
    h.prefixed (h.rolePrefix ++ s) = h.prefixed s := by
  rw [prefixed, prefixed, if_pos (isPrefixOf_append _ _), hs,
    if_neg Bool.false_ne_true]

theorem any_prefixed_eq {ss ss' : List String}
    (hss : List.Forall₂ (fun s s' => s' = s ∨
      h.rolePrefix.toList.isPrefixOf s.toList = false ∧
        s' = h.rolePrefix ++ s) ss ss') (granted : String → Bool) :
    (ss'.any fun r => granted (h.prefixed r)) =
      ss.any fun r => granted (h.prefixed r) := by
  induction hss with
  | nil => rfl
  | @cons s s' ss ss' hs _ ih =>
    have hrole : h.prefixed s' = h.prefixed s := by
      rcases hs with rfl | ⟨hstarts, rfl⟩
      · rfl
      · exact prefixed_prefix_append hstarts
    rw [List.any_cons, List.any_cons, hrole, ih]

end

/-- A function that asks for one of several roles or authorities is the
disjunction of the calls of its alternative with the single arguments, failures
included, unless an argument is a number with more digits than can be shown.

With one argument it is the alternative itself, and without arguments it is
false.  For texts it does not matter in which order and how often they are
given, nor whether a role has the prefix of the handler.

The texts consist of characters, so there are no surrogates in them; see
`Expression.characterOf`. -/
theorem evaluate_alternatives {h : Handler} {several single : String}
    (hpair : (several, single) ∈ alternatives)
    (hseveral : h.overrides several = false)
    (hsingle : h.overrides single = false) :
    (∀ args : List Literal, (∀ a ∈ args, a.isShowable = true) →
      h.SameOutcome (literalCall several args)
        (.disj (args.map fun a => literalCall single [a]))) ∧
    (∀ a : Literal, a.isShowable = true →
      h.SameOutcome (literalCall several [a]) (literalCall single [a])) ∧
    (∀ c text, compile text = .ok (literalCall several []) →
      h.evaluate c (.raw text) = .ok false) ∧
    (∀ ss ss' : List String, (∀ s, s ∈ ss ↔ s ∈ ss') →
      h.SameOutcome (literalCall several (ss.map .text))
        (literalCall several (ss'.map .text))) ∧
    (several = "hasAnyRole" → ∀ ss ss' : List String,
      List.Forall₂ (fun s s' => s' = s ∨
        h.rolePrefix.toList.isPrefixOf s.toList = false ∧
          s' = h.rolePrefix ++ s) ss ss' →
      h.SameOutcome (literalCall several (ss.map .text))
        (literalCall several (ss'.map .text))) := by
  have hasks := exists_asksForAny hpair hseveral hsingle
  refine ⟨?_, ?_, ?_, ?_, ?_⟩
  · intro args hshow
    apply sameOutcome_of_eval
    intro c
    obtain ⟨check, holds, ha⟩ := hasks c
    exact ⟨check, holds, ha, ha.eval_disj hshow⟩
  · intro a hshow
    apply sameOutcome_of_eval
    intro c
    obtain ⟨check, holds, ha⟩ := hasks c
    exact ⟨check, holds, ha, ha.eval_singleton hshow⟩
  · intro c text ht
    obtain ⟨check, holds, ha⟩ := hasks c
    rw [evaluate_raw c ht, evaluate_of_eval (ha.eval_several [])]
    rfl
  · intro ss ss' hmem
    apply sameOutcome_of_eval
    intro c
    obtain ⟨check, holds, ha⟩ := hasks c
    refine ⟨check, holds, ha, ?_⟩
    rw [ha.eval_texts, ha.eval_texts, any_eq_of_mem_iff hmem]
  · rintro rfl ss ss' hss
    obtain rfl : single = "hasRole" := by
      simpa [alternatives] using hpair
    apply sameOutcome_of_eval
    intro c
    have ha := asksForAny_roles (c := c) hseveral hsingle
    refine ⟨_, _, ha, ?_⟩
    rw [ha.eval_texts, ha.eval_texts, any_prefixed_eq hss]

/-- Roles of several kinds.  The first one that is no text is refused, unless
the role before it is granted. -/
theorem evaluate_alternatives_mixed :
    let h := make .standard [("isOwner", fun _ _ => .ok (.truth true))]
    let args : List Literal := [.text "A", .bytes [120], .integer 7, .nothing]
    let text := "hasAnyRole('A', b'x', 7, None)"
    let text' := "hasRole('A') or hasRole(b'x') or hasRole(7) or hasRole(None)"
    let granted (authorities : List String) : Context :=
      ⟨⟨some "user", authorities, false, false⟩, ⟨"GET", "/", none⟩⟩
    ("hasAnyRole", "hasRole") ∈ alternatives ∧
      h.overrides "hasAnyRole" = false ∧ h.overrides "hasRole" = false ∧
      (∀ a ∈ args, a.isShowable = true) ∧
      compile (some text) = .ok (literalCall "hasAnyRole" args) ∧
      compile (some text') =
        .ok (.disj (args.map fun a => literalCall "hasRole" [a])) ∧
      (∀ c, h.evaluate c (.raw (some text)) =
        h.evaluate c (.raw (some text'))) ∧
      h.evaluate (granted ["ROLE_A"]) (.raw (some text)) = .ok true ∧
      h.evaluate (granted ["ROLE_B"]) (.raw (some text)) =
        .error (.roleNotText (.bytes [120])) := by
  intro h args text text' granted
  have hpair : ("hasAnyRole", "hasRole") ∈ alternatives := by decide
  have hseveral : h.overrides "hasAnyRole" = false := by decide
  have hsingle : h.overrides "hasRole" = false := by decide
  have hshow : ∀ a ∈ args, a.isShowable = true := by decide +kernel
  have htext : compile (some text) = .ok (literalCall "hasAnyRole" args) := by
    decide +kernel
  have htext' : compile (some text') =
      .ok (.disj (args.map fun a => literalCall "hasRole" [a])) := by
    decide +kernel
  exact ⟨hpair, hseveral, hsingle, hshow, htext, htext',
    fun c => (evaluate_alternatives hpair hseveral hsingle).1 args hshow c _ _
      htext htext',
    by decide +kernel, by decide +kernel⟩

end Handler

end AccessRules
