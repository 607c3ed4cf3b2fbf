import AccessRules.Proofs.Expression.Demand
import AccessRules.Proofs.Handler.Evaluation

/-!
# Which validated expressions can be evaluated

Validation checks neither the number of arguments nor the kinds of values.  So
an expression is validated also if no context gives it a truth value.  Whether
the evaluation succeeds in a context depends on the parts that it comes to
there, and on nothing else about them than these two points and the address of
the client.
-/

namespace AccessRules.Handler

open Expression (CallFailure Function Tree)
open Outcome

/-- Atoms that do not have, in a context, a value of the kind they are asked
for. -/
inductive Unusable (c : Context) : Bool → Tree → Prop
  | constant {v : Literal} (hv : ¬ v.IsTruth) : Unusable c true (.constant v)
  | principal : Unusable c true (.name "principal")
  | arity {truth k : Bool} {name : String} {xs : List Tree}
      (htakes : takes name xs.length = false) :
      Unusable c truth (.call (.name name) xs k)
  | address {truth k : Bool} {xs : List Tree}
      (hnone : c.request.remoteAddress = none) :
      Unusable c truth (.call (.name "hasIpAddress") xs k)

variable {h : Handler} {c : Context} {t u : Tree} {truth : Bool}

theorem Admits.of_contains (hadmits : h.Admits t) (hu : t.Contains u) :
    h.Admits u where
  accepted := hadmits.accepted.of_contains hu
  functions f args hcall := hadmits.functions f args (hcall.of_contains hu)
  names x hx := hadmits.names x (hu.trans hx)
  texts f args hf hoverrides hcall :=
    hadmits.texts f args hf hoverrides (hcall.of_contains hu)
  subnets args hoverrides hcall :=
    hadmits.subnets args hoverrides (hcall.of_contains hu)

/-! ## Values of built-in functions -/

theorem constantly_of_length_ne {name : String} {b : Bool}
    {args : List Literal} (hlength : args.length ≠ 0) :
    constantly name b args =
      .error (.badArguments ((signatureOf name).complaint args.length)) := by
  match args with
  | [] => exact absurd rfl hlength
  | _ :: _ => rfl

theorem unary_of_length_ne {name : String}
    {f : Literal → Except CallFailure Bool} {args : List Literal}
    (hlength : args.length ≠ 1) :
    unary name f args =
      .error (.badArguments ((signatureOf name).complaint args.length)) := by
  match args with
  | [_] => exact absurd rfl hlength
  | [] | _ :: _ :: _ => rfl

theorem builtin?_of_not_takes {name : String} {args : List Literal}
    {g : Function} (hname : name ∈ builtinNames)
    (hg : h.builtin? c name = some g)
    (htakes : takes name args.length = false) :
    g args =
      .error (.badArguments ((signatureOf name).complaint args.length)) := by
  simp only [builtinNames, List.mem_cons, List.not_mem_nil, or_false] at hname
  rcases hname with rfl | rfl | rfl | rfl | rfl | rfl | rfl | rfl | rfl
  all_goals obtain rfl := Option.some.inj hg
  -- `hasAnyRole` and `hasAnyAuthority` take any number of arguments
  case inr.inl | inr.inr.inr.inl => cases htakes
  case inl | inr.inr.inl | inr.inr.inr.inr.inl =>
    exact unary_of_length_ne (ne_of_beq_false htakes)
  all_goals exact constantly_of_length_ne (ne_of_beq_false htakes)

theorem address_of_builtin?_ok {args : List Literal} {g : Function}
    {v : Literal} (hg : h.builtin? c "hasIpAddress" = some g)
    (hv : g args = .ok v) :
    c.request.remoteAddress ≠ none := by
  intro hnone
  obtain rfl := Option.some.inj hg
  match args with
  | [] | _ :: _ :: _ => cases hv
  | [e] =>
    obtain ⟨b, hb, -⟩ := map_eq_ok_iff.mp hv
    obtain ⟨subnet, -, hclient⟩ := bind_eq_ok_iff.mp hb
    rw [mapError_eq_ok_iff, clientIn, hnone] at hclient
    cases hclient

/-! ## Values of atoms -/

theorem gives_constant_iff {v : Literal} :
    Tree.Gives (h.environment c) truth (.constant v) ↔
      ¬ Unusable c truth (.constant v) := by
  have hgives : Tree.Gives (h.environment c) truth (.constant v) ↔
      (truth = true → v.IsTruth) := by
    simp [Tree.Gives, Tree.eval]
  rw [hgives]
  constructor
  · intro htruth hunusable
    cases hunusable with
    | constant hv => exact hv (htruth rfl)
  · intro husable htruth
    subst htruth
    exact not_not.mp fun hv => husable (.constant hv)

theorem gives_name_iff {x : String} (hx : x ∈ variableNames) :
    Tree.Gives (h.environment c) truth (.name x) ↔
      ¬ Unusable c truth (.name x) := by
  obtain ⟨v, hv⟩ := exists_value c.security hx
  have heval : (Tree.name x).eval (h.environment c) = .ok v :=
    Expression.Environment.variable_eq_ok_iff.mpr hv
  constructor
  · rintro ⟨w, hw, htruth⟩ hunusable
    cases hunusable with
    | principal =>
      obtain rfl := Except.ok.inj (heval.symm.trans hw)
      obtain ⟨b, rfl⟩ := htruth rfl
      rw [valueOf?] at hv
      cases hprincipal : c.security.principal with
      | none => simp [hprincipal] at hv
      | some p => simp [hprincipal] at hv
  · intro husable
    refine ⟨v, heval, ?_⟩
    intro htruth
    subst htruth
    refine valueOf?_isTruth ?_ hv
    rintro rfl
    exact husable .principal

theorem gives_call_iff {name : String} {args : List Literal} {k : Bool}
    (hadmits : h.Admits (.call (.name name) (args.map .constant) k))
    (hextra : h.extra = []) :
    Tree.Gives (h.environment c) truth
        (.call (.name name) (args.map .constant) k) ↔
      ¬ Unusable c truth (.call (.name name) (args.map .constant) k) := by
  have hcall :
      (Tree.call (.name name) (args.map .constant) k).HasCall name args :=
    ⟨k, .refl _⟩
  have hoverrides (f : String) : h.overrides f = false := by
    rw [overrides, hextra]
    rfl
  have hname : name ∈ builtinNames := by
    simpa [hoverrides] using hadmits.functions name args hcall
  obtain ⟨g, hg⟩ := exists_builtin? h c hname
  rw [Tree.Gives, eval_builtinCall (hoverrides name) hg]
  simp only [Function.call, mapError_eq_ok_iff]
  constructor
  · rintro ⟨v, hv, -⟩ hunusable
    cases hunusable with
    | arity htakes =>
      rw [List.length_map] at htakes
      rw [builtin?_of_not_takes hname hg htakes] at hv
      cases hv
    | address hnone => exact address_of_builtin?_ok hg hv hnone
  · intro husable
    cases hv : g args with
    | ok v => exact ⟨v, rfl, fun _ => builtin?_ok hg hv⟩
    | error e =>
      have htexts : name ∈ textFunctions → AreTexts args := fun hmem =>
        hadmits.texts name args hmem (hoverrides name) hcall
      have hsubnets : name = "hasIpAddress" → DescribeSubnets args := by
        rintro rfl
        exact hadmits.subnets args (hoverrides _) hcall
      rcases builtin?_error hg htexts hsubnets hv with
        ⟨htakes, -⟩ | ⟨rfl, hnone, -⟩
      · exact absurd (.arity (by rwa [List.length_map])) husable
      · exact absurd (.address hnone) husable

/-- An admitted atom gives what it is asked for, if it is not unusable. -/
theorem gives_iff_not_unusable (hadmits : h.Admits t) (hextra : h.extra = [])
    (hatom : t.isAtom) :
    Tree.Gives (h.environment c) truth t ↔ ¬ Unusable c truth t := by
  cases hadmits.accepted.grammatical with
  | constant v => exact gives_constant_iff
  | name x => exact gives_name_iff (hadmits.names x (.refl _))
  | call f args => exact gives_call_iff hadmits hextra
  | conj | disj | negation | comparison => cases hatom

theorem Unusable.isAtom (hu : Unusable c truth t) : t.isAtom := by
  cases hu with
  | constant | principal | arity | address => rfl

/-! ## Validated expressions -/

/-- Without added functions, the evaluation of a validated expression gives a
truth value in exactly those contexts where it comes to no part that is
unusable.

Escapes by name are not read, and those of surrogates all give the replacement
character; see `Expression.Escape.read`. -/
theorem evaluate_raw_iff_of_validate {text : Option String}
    (hextra : h.extra = [])
    (hvalid : h.validate (.requirement (.raw text)) = .ok ()) :
    ∃ t, Expression.compile text = .ok t ∧
      ∀ c, (∃ b, h.evaluate c (.raw text) = .ok b) ↔
        ∀ truth u, t.Demands (h.environment c) true truth u →
          ¬ Unusable c truth u := by
  obtain ⟨t, ht, hadmits⟩ := exists_admits_of_validate hvalid
  refine ⟨t, ht, ?_⟩
  intro c
  simp only [evaluate_raw c ht, evaluate_eq_ok_iff,
    ← truthAsOperand_eq_ok_iff]
  rw [← Tree.gives_true_iff,
    Tree.gives_iff_forall_demands hadmits.accepted.grammatical]
  refine forall₃_congr fun truth u hu => ?_
  constructor
  · intro hgives hunusable
    exact (gives_iff_not_unusable (hadmits.of_contains hu.contains) hextra
      hunusable.isAtom).mp (hgives hunusable.isAtom) hunusable
  · intro husable hatom
    exact (gives_iff_not_unusable (hadmits.of_contains hu.contains) hextra
      hatom).mpr husable

/-- The second operand is evaluated only for users without the role. -/
theorem evaluate_raw_iff_of_validate_role :
    let h := make .standard []
    let text := some "hasRole('A') or hasRole()"
    h.extra = [] ∧ h.validate (.requirement (.raw text)) = .ok () ∧
      ∃ t, Expression.compile text = .ok t ∧
        ∀ c, (∃ b, h.evaluate c (.raw text) = .ok b) ↔
          ∀ truth u, t.Demands (h.environment c) true truth u →
            ¬ Unusable c truth u := by
  intro h text
  have hvalid : h.validate (.requirement (.raw text)) = .ok () := by
    decide +kernel
  exact ⟨rfl, hvalid, evaluate_raw_iff_of_validate rfl hvalid⟩

/-- A call without its argument is validated, and so is the name of the
principal, but neither has a truth value in any context. -/
theorem validate_and_evaluate_raw_ne_ok :
    let h := make .standard []
    (∀ s ∈ ["hasRole()", "principal"],
      h.validate (.requirement (.raw (some s))) = .ok () ∧
        ∀ c b, h.evaluate c (.raw (some s)) ≠ .ok b) ∧
      ¬ ∀ (h : Handler) (text : Option String), h.extra = [] →
        h.validate (.requirement (.raw text)) = .ok () →
        ∃ c b, h.evaluate c (.raw text) = .ok b := by
  intro h
  have hcall : Expression.compile (some "hasRole()") =
      .ok (.call (.name "hasRole") [] false) := by
    decide +kernel
  have hname : Expression.compile (some "principal") =
      .ok (.name "principal") := by
    decide +kernel
  have hvalid : ∀ s ∈ ["hasRole()", "principal"],
      h.validate (.requirement (.raw (some s))) = .ok () := by
    decide +kernel
  have hcall_ne : ∀ c b, h.evaluate c (.raw (some "hasRole()")) ≠ .ok b := by
    intro c b hb
    rw [evaluate_raw c hcall, evaluate_eq_ok_iff] at hb
    cases hb
  have hname_ne : ∀ c b, h.evaluate c (.raw (some "principal")) ≠ .ok b := by
    intro c b hb
    rw [evaluate_raw c hname, evaluate_eq_ok_iff] at hb
    cases hprincipal : c.security.principal with
    | none => simp [Tree.eval, Expression.Environment.variable, environment,
        valueOf?, hprincipal] at hb
    | some p => simp [Tree.eval, Expression.Environment.variable, environment,
        valueOf?, hprincipal] at hb
  refine ⟨?_, ?_⟩
  · rw [List.forall_mem_cons, List.forall_mem_singleton]
    exact ⟨⟨hvalid _ List.mem_cons_self, hcall_ne⟩,
      ⟨hvalid _ (List.mem_cons_of_mem _ List.mem_cons_self), hname_ne⟩⟩
  · intro hall
    obtain ⟨c, b, hb⟩ :=
      hall h (some "hasRole()") rfl (hvalid _ List.mem_cons_self)
    exact hcall_ne c b hb

end AccessRules.Handler
