import AccessRules.Proofs.Expression.Growth
import AccessRules.Proofs.Handler.Evaluation

/-!
# Further authorities

A security context may gain authorities.  The four built-in functions that ask
for authorities can only become true by that, and all other functions and names
keep their values.

An expression that is true therefore stays true, if no negation and no
comparison in it asks for authorities and if its calls and operands are of the
right kinds.  That keeps operands which are evaluated only with more authorities
from failing.
-/

namespace AccessRules

open Expression (Environment Function Tree)
open Outcome

/-- A context with all authorities of another one, and like it otherwise. -/
structure Security.Extends (s' s : Security) : Prop where
  principal : s'.principal = s.principal
  anonymous : s'.anonymous = s.anonymous
  rememberMe : s'.rememberMe = s.rememberMe
  authorities : s.authorities ⊆ s'.authorities

namespace Security.Extends

variable {s s' : Security}

theorem isAuthenticated (hs : s'.Extends s) :
    s'.isAuthenticated = s.isAuthenticated := by
  rw [Security.isAuthenticated, Security.isAuthenticated, hs.anonymous,
    hs.principal]

theorem isFullyAuthenticated (hs : s'.Extends s) :
    s'.isFullyAuthenticated = s.isFullyAuthenticated := by
  rw [Security.isFullyAuthenticated, Security.isFullyAuthenticated,
    hs.isAuthenticated, hs.rememberMe]

theorem hasAuthority (hs : s'.Extends s) {a : String}
    (ha : s.hasAuthority a = true) :
    s'.hasAuthority a = true := by
  rw [Security.hasAuthority, List.contains_iff_mem] at ha ⊢
  exact hs.authorities ha

end Security.Extends

/-! ## Positive expressions -/

/-- The built-in functions that ask for authorities. -/
def Handler.authorityFunctions : List String :=
  ["hasRole", "hasAnyRole", "hasAuthority", "hasAnyAuthority"]

namespace Expression.Tree

/-- A tree without calls that ask for authorities. -/
def IsAuthorityFree (t : Tree) : Prop :=
  ∀ f ∈ Handler.authorityFunctions, f ∉ t.functionNames

/-- What a positive tree asks of each tree within it: logical operators apply to
trees of truth values, and negations and comparisons to trees that do not ask
for authorities. -/
def IsPositivePart : Tree → Prop
  | .conj xs | .disj xs => ∀ x ∈ xs, x.IsBooleanKinded
  | .negation x => x.IsBooleanKinded ∧ x.IsAuthorityFree
  | .comparison x links =>
    x.IsAuthorityFree ∧ ∀ l ∈ links, l.2.IsAuthorityFree
  | _ => True

end Expression.Tree

namespace Handler

/-- A tree of truth values all of whose parts are positive, and that calls
built-in functions only, with as many arguments as they take. -/
structure Positive (h : Handler) (t : Tree) : Prop where
  builtin : ∀ f args, t.HasCall f args → h.overrides f = false
  arity : ∀ f args, t.HasCall f args → takes f args.length = true
  kind : t.IsBooleanKinded
  parts : ∀ u, t.Contains u → u.IsPositivePart

/-- A valid expression with a positive tree. -/
def IsPositive (h : Handler) (text : Option String) : Prop :=
  h.validate (.requirement (.raw text)) = .ok () ∧
    ∃ t, Expression.compile text = .ok t ∧ h.Positive t

end Handler

/-! ### Deciding what is positive -/

instance (v : Literal) : Decidable v.IsTruth :=
  match v with
  | .truth b => .isTrue ⟨b, rfl⟩
  | .nothing | .integer _ | .decimal _ | .imaginary _ | .text _ | .bytes _
  | .ellipsis | .foreign _ => .isFalse fun ⟨_, h⟩ => nomatch h

namespace Expression.Tree

instance (t : Tree) : Decidable t.IsBooleanKinded :=
  match t with
  | .constant v => inferInstanceAs (Decidable v.IsTruth)
  | .name x => inferInstanceAs (Decidable (x ≠ "principal"))
  | .call _ _ _ | .comparison _ _ | .conj _ | .disj _ | .negation _ =>
    .isTrue trivial
  | .signed _ | .unsupported _ => .isFalse id

instance (t : Tree) : Decidable t.IsAuthorityFree :=
  inferInstanceAs (Decidable (∀ f ∈ Handler.authorityFunctions,
    f ∉ t.functionNames))

instance (t : Tree) : Decidable t.IsPositivePart :=
  match t with
  | .conj xs | .disj xs =>
    inferInstanceAs (Decidable (∀ x ∈ xs, x.IsBooleanKinded))
  | .negation x =>
    inferInstanceAs (Decidable (x.IsBooleanKinded ∧ x.IsAuthorityFree))
  | .comparison x links =>
    inferInstanceAs (Decidable (x.IsAuthorityFree ∧
      ∀ l ∈ links, l.2.IsAuthorityFree))
  | .constant _ | .name _ | .signed _ | .call _ _ _ | .unsupported _ =>
    .isTrue trivial

end Expression.Tree

/-- The tree at a part, if the part is not what is called. -/
def Expression.Node.tree? : Expression.Node → Option Tree
  | .tree t => some t
  | _ => none

namespace Handler

variable {h : Handler} {s s' : Security} {q : Request} {t : Tree}

/-- A walk through a tree finds out whether it is positive. -/
theorem positive_of_walk (hkind : t.IsBooleanKinded)
    (hcalls : ∀ call ∈ t.calls, h.overrides call.1 = false ∧
      takes call.1 call.2.length = true)
    (hparts : ∀ u ∈ t.walk.filterMap Expression.Node.tree?, u.IsPositivePart) :
    h.Positive t where
  builtin _ _ hf := (hcalls _ hf.mem_calls).1
  arity _ _ hf := (hcalls _ hf.mem_calls).2
  kind := hkind
  parts u hu := hparts u
    (List.mem_filterMap.mpr ⟨.tree u, Tree.mem_walk_of_within hu, rfl⟩)

/-! ## Functions and names -/

theorem valueOf?_of_extends (hs : s'.Extends s) (x : String) :
    valueOf? s' x = valueOf? s x := by
  unfold valueOf?
  rw [hs.anonymous, hs.isAuthenticated, hs.isFullyAuthenticated, hs.rememberMe,
    hs.principal]

theorem builtin?_of_extends (hs : s'.Extends s) {f : String}
    (hf : f ∉ authorityFunctions) :
    h.builtin? ⟨s', q⟩ f = h.builtin? ⟨s, q⟩ f := by
  unfold builtin?
  dsimp only
  rw [hs.anonymous, hs.isAuthenticated, hs.isFullyAuthenticated, hs.rememberMe]
  split
  case h_1 | h_2 | h_3 | h_4 => exact absurd (by decide) hf
  all_goals rfl

theorem unary_eq_true {name : String}
    {f f' : Literal → Except Expression.CallFailure Bool}
    (hf : ∀ v, f v = .ok true → f' v = .ok true) {args : List Literal}
    (h : unary name f args = .ok (.truth true)) :
    unary name f' args = .ok (.truth true) := by
  match args with
  | [v] =>
    rw [unary, Expression.map_truth_eq_true_iff] at h ⊢
    exact hf v h
  | [] | _ :: _ :: _ => cases h

theorem grants_of_extends (hs : s'.Extends s) {v : Literal}
    (hv : grants s v = true) :
    grants s' v = true := by
  cases v with
  | text a => exact hs.hasAuthority hv
  | _ => cases hv

/-- Roles are looked at one after the other, and fewer of them if one is granted
earlier. -/
theorem grantsAnyRole_of_extends (hs : s'.Extends s) {args : List Literal}
    (hargs : h.grantsAnyRole s args = .ok true) :
    h.grantsAnyRole s' args = .ok true := by
  induction args with
  | nil => cases hargs
  | cons v args ih =>
    rw [grantsAnyRole, bind_eq_ok_iff] at hargs ⊢
    obtain ⟨a, ha, hrest⟩ := hargs
    refine ⟨a, ha, ?_⟩
    by_cases hs'a : s'.hasAuthority a = true
    · rw [if_pos hs'a]
    · rw [if_neg hs'a]
      rw [if_neg fun hsa => hs'a (hs.hasAuthority hsa)] at hrest
      exact ih hrest

theorem authority_of_extends (hs : s'.Extends s) {f : String}
    (hf : f ∈ authorityFunctions) {g g' : Function}
    (hg : h.builtin? ⟨s, q⟩ f = some g) (hg' : h.builtin? ⟨s', q⟩ f = some g')
    {args : List Literal} (hargs : g args = .ok (.truth true)) :
    g' args = .ok (.truth true) := by
  simp only [authorityFunctions, List.mem_cons, List.not_mem_nil,
    or_false] at hf
  rcases hf with rfl | rfl | rfl | rfl
  all_goals
    obtain rfl := Option.some.inj hg
    obtain rfl := Option.some.inj hg'
  · refine unary_eq_true (fun v hv => ?_) hargs
    obtain ⟨a, ha, hsa⟩ := map_eq_ok_iff.mp hv
    exact map_eq_ok_iff.mpr ⟨a, ha, hs.hasAuthority hsa⟩
  · rw [Expression.map_truth_eq_true_iff] at hargs ⊢
    exact grantsAnyRole_of_extends hs hargs
  · refine unary_eq_true (fun v hv => ?_) hargs
    rw [Except.ok.injEq] at hv ⊢
    exact grants_of_extends hs hv
  · rw [Except.ok.injEq, Literal.truth.injEq, List.any_eq_true] at hargs ⊢
    obtain ⟨v, hv, hgrants⟩ := hargs
    exact ⟨v, hv, grants_of_extends hs hgrants⟩

theorem call_of_extends (hs : s'.Extends s) {f : String}
    (hf : h.overrides f = false) {args : List Literal}
    (hcall : (h.environment ⟨s, q⟩).call f args = .ok (.truth true)) :
    (h.environment ⟨s', q⟩).call f args = .ok (.truth true) := by
  have hfunctions := functions_of_overrides_eq_false hf
  by_cases hauthority : f ∈ authorityFunctions
  · have hknown : f ∈ builtinNames := by
      have hall : ∀ f ∈ authorityFunctions, f ∈ builtinNames := by decide
      exact hall f hauthority
    obtain ⟨g, hg⟩ := exists_builtin? h ⟨s, q⟩ hknown
    obtain ⟨g', hg'⟩ := exists_builtin? h ⟨s', q⟩ hknown
    rw [Environment.call_eq ((hfunctions _).trans hg)] at hcall
    rw [Environment.call_eq ((hfunctions _).trans hg')]
    exact mapError_eq_ok_iff.mpr
      (authority_of_extends hs hauthority hg hg' (mapError_eq_ok_iff.mp hcall))
  · have hsame : (h.environment ⟨s, q⟩).functions f =
        (h.environment ⟨s', q⟩).functions f := by
      rw [hfunctions, hfunctions, builtin?_of_extends hs hauthority]
    rw [← Environment.call_eq_of_functions_eq hsame]
    exact hcall

/-! ## Trees -/

/-- Further authorities make no difference to a tree that does not ask for
any. -/
theorem eval_eq_of_isAuthorityFree (hs : s'.Extends s) (haccepted : t.Accepted)
    (hbuiltin : ∀ f args, t.HasCall f args → h.overrides f = false)
    (hfree : t.IsAuthorityFree) :
    t.eval (h.environment ⟨s, q⟩) = t.eval (h.environment ⟨s', q⟩) := by
  refine agree_eq_iff.mp (Tree.eval_agree (fun _ => rfl) haccepted ?_ ?_)
  · intro f args hf
    have hfunctions := functions_of_overrides_eq_false (hbuiltin f args hf)
    refine agree_eq_iff.mpr (Environment.call_eq_of_functions_eq ?_ args)
    rw [hfunctions, hfunctions, builtin?_of_extends hs fun hauthority =>
      hfree f hauthority hf.mem_functionNames]
  · intro x _
    exact (valueOf?_of_extends hs x).symm

namespace Positive

variable (hpositive : h.Positive t)
include hpositive

theorem operand {x : Tree} (hx : t.HasOperand x) :
    x.IsBooleanKinded := by
  cases hx with
  | conj h hx | disj h hx => exact hpositive.parts _ h x hx
  | negation h => exact (hpositive.parts _ h).1

/-- The operands of a positive tree have truth values, whether or not they are
evaluated. -/
theorem exists_truth_of_operand {c : Context} (hadmits : h.Admits t)
    (haddress : c.request.remoteAddress ≠ none) {x : Tree}
    (hx : t.HasOperand x) :
    ∃ b, x.eval (h.environment c) = .ok (.truth b) := by
  have haccepted := hadmits.accepted.of_contains hx.contains
  cases hvalue : x.eval (h.environment c) with
  | ok v =>
    obtain ⟨b, rfl⟩ := isTruth_of_isBooleanKinded
      (fun f args hf => hpositive.builtin f args (hf.of_contains hx.contains))
      haccepted (hpositive.operand hx) hvalue
    exact ⟨b, rfl⟩
  | error f =>
    have horigin := (Tree.origin_of_eval_error haccepted hvalue).of_contains
      hx.contains
    have hfailure : PlainFailure h c t "" f ∨
        ∃ name e, h.AddedFails c t name e ∧ f = e.toFault name :=
      failure_of_origin hadmits horigin
    rcases hfailure with hf | ⟨name, e, hfails, -⟩
    · exact absurd hf (not_plainFailure hadmits hpositive.builtin
        hpositive.arity hpositive.kind (fun _ => hpositive.operand) haddress)
    · exact absurd hfails (not_addedFails hpositive.builtin)

theorem eval_eq_of_isBarrier (hs : s'.Extends s) (haccepted : t.Accepted)
    {u : Tree} (hu : t.Contains u) (hbarrier : u.IsBarrier) :
    u.eval (h.environment ⟨s, q⟩) = u.eval (h.environment ⟨s', q⟩) := by
  have hfree : ∀ v, Expression.Node.tree v ∈ u.children → v.IsAuthorityFree →
      v.eval (h.environment ⟨s, q⟩) = v.eval (h.environment ⟨s', q⟩) := by
    intro v hv hfree
    have htv := hu.trans (Tree.contains_of_mem_children hv)
    exact eval_eq_of_isAuthorityFree hs (haccepted.of_contains htv)
      (fun f args hf => hpositive.builtin f args (hf.of_contains htv)) hfree
  cases u with
  | negation x =>
    rw [Tree.eval, Tree.eval,
      hfree x (List.mem_singleton_self _) (hpositive.parts _ hu).2]
  | comparison x links =>
    obtain ⟨hx, hlinks⟩ := hpositive.parts _ hu
    have hchain : ∀ v, Tree.evalLinks (h.environment ⟨s, q⟩) v links =
        Tree.evalLinks (h.environment ⟨s', q⟩) v links := by
      intro v
      refine agree_eq_iff.mp (Tree.evalLinks_agree (fun _ => rfl) v ?_)
      intro l hl
      exact agree_eq_iff.mpr
        (hfree l.2 (Tree.link_mem_children hl) (hlinks l hl))
    rw [Tree.eval, Tree.eval, hfree x List.mem_cons_self hx]
    simp only [hchain]
  | _ => cases hbarrier

/-- A positive tree that is true stays true with further authorities. -/
theorem evaluate_of_extends (hs : s'.Extends s) (hadmits : h.Admits t)
    (haddress : q.remoteAddress ≠ none) {text : String}
    (htrue : t.evaluate (h.environment ⟨s, q⟩) text = .ok true) :
    t.evaluate (h.environment ⟨s', q⟩) text = .ok true := by
  rw [Tree.evaluate_eq_true_iff] at htrue ⊢
  refine Tree.eval_eq_true_of_calls hadmits.accepted ?_ ?_ ?_ ?_ htrue
  · intro f args hf
    exact call_of_extends hs (hpositive.builtin f args hf)
  · intro x _
    exact (valueOf?_of_extends hs x).symm
  · intro u hu hbarrier
    exact hpositive.eval_eq_of_isBarrier hs hadmits.accepted hu hbarrier
  · intro x hx
    exact hpositive.exists_truth_of_operand hadmits haddress hx

end Positive

/-! ## Requirements -/

theorem validate_of_isPositive {r : Requirement}
    (hr : ∀ text, r = .raw text → h.IsPositive text) :
    h.validate (.requirement r) = .ok () := by
  cases r with
  | raw text => exact (hr text rfl).1
  | _ => rfl

/-- A requirement that holds still does with further authorities. -/
theorem evaluate_of_extends (hs : s'.Extends s)
    (haddress : q.remoteAddress ≠ none) {r : Requirement}
    (hr : ∀ text, r = .raw text → h.IsPositive text)
    (htrue : h.evaluate ⟨s, q⟩ r = .ok true) :
    h.evaluate ⟨s', q⟩ r = .ok true := by
  cases r with
  | raw text =>
    obtain ⟨hvalid, t, ht, hpositive⟩ := hr text rfl
    obtain ⟨u, hu, hadmits⟩ := exists_admits_of_validate hvalid
    obtain rfl := Except.ok.inj (ht.symm.trans hu)
    rw [evaluate_raw _ ht] at htrue ⊢
    exact hpositive.evaluate_of_extends hs hadmits haddress htrue
  | role role rolePrefix | authority a =>
    rw [evaluate, Except.ok.injEq] at htrue ⊢
    exact hs.hasAuthority htrue
  | anyAuthority as =>
    rw [evaluate, Except.ok.injEq, List.any_eq_true] at htrue ⊢
    obtain ⟨a, ha, hsa⟩ := htrue
    exact ⟨a, ha, hs.hasAuthority hsa⟩
  | authenticated =>
    rw [evaluate, hs.isAuthenticated]
    exact htrue
  | fullyAuthenticated =>
    rw [evaluate, hs.isFullyAuthenticated]
    exact htrue
  | anonymous =>
    rw [evaluate, hs.anonymous]
    exact htrue
  | rememberMe =>
    rw [evaluate, hs.rememberMe]
    exact htrue
  | ipAddress _ | permitAll | denyAll | custom _ _ _ => exact htrue

end Handler

end AccessRules
