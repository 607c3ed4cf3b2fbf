import AccessRules.Proofs.Handler.Validation

/-!
# What can go wrong with a validated expression

Evaluation of a validated expression never asks for a function or a name that is
not known.  What is left are an unknown client address, a wrong number of
arguments, values of the wrong kind, and the failures of added functions.  All
of these are errors of evaluation.

Without added functions, an expression whose operands are of the right kind
therefore has a value, for every request with a client address.
-/

namespace AccessRules

/-- The kind of error that a fault is reported as. -/
def Fault.kind? (f : Fault) : Option Kind :=
  f.report?.map (·.kind)

namespace Expression

/-- Trees that stand for truth values: only a constant of another kind and the
principal do not. -/
def Tree.IsBooleanKinded : Tree → Prop
  | .call _ _ _ | .comparison _ _ | .conj _ | .disj _ | .negation _ => True
  | .constant v => v.IsTruth
  | .name x => x ≠ "principal"
  | .signed _ | .unsupported _ => False

end Expression

namespace Handler

open Expression (CallFailure Environment Function Origin Tree)
open Outcome

/-- An added function that is called in a tree fails in this way. -/
def AddedFails (h : Handler) (c : Context) (t : Tree) (name : String)
    (e : CallFailure) : Prop :=
  ∃ (args : List Literal) (g : ExtraFunction), t.HasCall name args ∧
    h.extra.lookup name = some g ∧ g c args = .error e

/-- The faults that do not come from added functions, for a tree with its
text. -/
inductive PlainFailure (h : Handler) (c : Context) (t : Tree)
    (text : String) : Fault → Prop
  | address {args : List Literal} (hcall : t.HasCall "hasIpAddress" args)
      (hnone : c.request.remoteAddress = none) :
      PlainFailure h c t text (.noClientAddress c.request.path)
  | arity {name : String} {args : List Literal}
      (hcall : t.HasCall name args) (hname : name ∈ builtinNames)
      (htakes : takes name args.length = false) :
      PlainFailure h c t text
        (.badArguments name ((signatureOf name).complaint args.length))
  | operand {x : Tree} {v : Literal} (hx : t.HasOperand x)
      (hv : x.eval (h.environment c) = .ok v) (hnot : ¬ v.IsTruth) :
      PlainFailure h c t text (.operandNotTruth v)
  | result {v : Literal} (hv : t.eval (h.environment c) = .ok v)
      (hnot : ¬ v.IsTruth) :
      PlainFailure h c t text (.resultNotTruth v text)

variable {h : Handler} {c : Context} {t : Tree} {text : String} {f : Fault}

/-! ## Names and functions of an environment -/

theorem overrides_eq_false_iff {name : String} :
    h.overrides name = false ↔ h.extra.lookup name = none := by
  rw [overrides, Option.isSome_eq_false_iff, Option.isNone_iff_eq_none]

theorem functions_of_overrides_eq_false {name : String}
    (hname : h.overrides name = false) (c : Context) :
    (h.environment c).functions name = h.builtin? c name := by
  simp [environment, overrides_eq_false_iff.mp hname]

/-- A call of a built-in function that no added one replaces. -/
theorem eval_builtinCall {name : String} {g : Function}
    (hname : h.overrides name = false) (hg : h.builtin? c name = some g)
    (args : List Literal) (k : Bool) :
    (Tree.call (.name name) (args.map .constant) k).eval (h.environment c) =
      Function.call name g args := by
  have hfunction : (h.environment c).function name = .ok g := by
    rw [Environment.function_eq_ok_iff,
      functions_of_overrides_eq_false hname, hg]
  rw [Tree.eval, hfunction, Tree.evalList_constants]
  rfl

/-- A function of the environment is an added one, or a built-in one that no
added one replaces. -/
theorem functions_eq_some {name : String} {g : Function}
    (hg : (h.environment c).functions name = some g) :
    (∃ added : ExtraFunction, h.extra.lookup name = some added ∧ added c = g) ∨
      (h.overrides name = false ∧ h.builtin? c name = some g) := by
  cases hadded : h.extra.lookup name with
  | some added =>
    have hsame : added c = g := by
      simpa [environment, hadded] using hg
    exact Or.inl ⟨added, rfl, hsame⟩
  | none =>
    have hbuiltin : h.builtin? c name = some g := by
      simpa [environment, hadded] using hg
    exact Or.inr ⟨overrides_eq_false_iff.mpr hadded, hbuiltin⟩

theorem exists_function {name : String}
    (hname : name ∈ builtinNames ∨ h.overrides name = true) :
    ∃ g, (h.environment c).functions name = some g := by
  cases hadded : h.extra.lookup name with
  | some added => exact ⟨added c, by simp [environment, hadded]⟩
  | none =>
    have hoverrides : h.overrides name = false :=
      overrides_eq_false_iff.mpr hadded
    have hbuiltin : name ∈ builtinNames := by
      simpa [hoverrides] using hname
    obtain ⟨g, hg⟩ := exists_builtin? h c hbuiltin
    exact ⟨g, by simpa [environment, hadded] using hg⟩

theorem exists_value (s : Security) {x : String} (hx : x ∈ variableNames) :
    ∃ v, valueOf? s x = some v := by
  simp only [variableNames, List.mem_cons, List.not_mem_nil, or_false] at hx
  rcases hx with rfl | rfl | rfl | rfl | rfl | rfl | rfl | rfl | rfl
  all_goals exact ⟨_, rfl⟩

theorem valueOf?_isTruth {s : Security} {x : String} {v : Literal}
    (hx : x ≠ "principal") (hv : valueOf? s x = some v) :
    v.IsTruth := by
  unfold valueOf? at hv
  split at hv
  case h_7 => exact absurd rfl hx
  case h_10 => cases hv
  all_goals
    cases hv
    exact ⟨_, rfl⟩

/-! ## Failures of admitted trees -/

/-- An error in a part of an admitted tree is plain, or an added function has
failed. -/
theorem failure_of_origin (hadmits : h.Admits t)
    (ho : Origin (h.environment c) t f) :
    PlainFailure h c t text f ∨
      ∃ name e, h.AddedFails c t name e ∧ f = e.toFault name := by
  -- admitted names and functions are known, so two of the four origins are
  -- impossible
  cases ho with
  | operand hx hv hnot => exact Or.inl (.operand hx hv hnot)
  | @name x hx hnone =>
    obtain ⟨v, hv⟩ := exists_value c.security (hadmits.names x hx)
    simp [environment, hv] at hnone
  | @function name args hcall hnone =>
    obtain ⟨g, hg⟩ :=
      exists_function (c := c) (hadmits.functions name args hcall)
    rw [hg] at hnone
    cases hnone
  | @call name args g e hcall hg he =>
    rcases functions_eq_some hg with ⟨added, hadded, rfl⟩ | ⟨hoverrides, hg⟩
    · exact Or.inr ⟨name, e, ⟨args, added, hcall, hadded, he⟩, rfl⟩
    · have htexts : name ∈ textFunctions → AreTexts args := by
        intro hname
        exact hadmits.texts name args hname hoverrides hcall
      have hsubnets : name = "hasIpAddress" → DescribeSubnets args := by
        rintro rfl
        exact hadmits.subnets args hoverrides hcall
      rcases builtin?_error hg htexts hsubnets he with
        ⟨htakes, rfl⟩ | ⟨rfl, hnone, rfl⟩
      · rcases hadmits.functions name args hcall with hname | hname
        · exact Or.inl (.arity hcall hname htakes)
        · rw [hname] at hoverrides
          cases hoverrides
      · exact Or.inl (.address hcall hnone)

/-- An error of the evaluation of an admitted tree is plain, or an added
function has failed. -/
theorem failure_of_evaluate_error (hadmits : h.Admits t)
    (he : t.evaluate (h.environment c) text = .error f) :
    PlainFailure h c t text f ∨
      ∃ name e, h.AddedFails c t name e ∧ f = e.toFault name := by
  rw [Tree.evaluate, bind_eq_error_iff] at he
  rcases he with he | ⟨v, hv, he⟩
  · exact failure_of_origin hadmits
      (Tree.origin_of_eval_error hadmits.accepted he)
  · cases v with
    | truth b => cases he
    | _ =>
      cases he
      exact Or.inl (.result hv (by simp [Literal.IsTruth]))

/-! ## Kinds of failures -/

theorem PlainFailure.isEvaluation (hf : PlainFailure h c t text f) :
    f.isEvaluation = true := by
  cases hf with
  | address | arity | operand | result => rfl

/-- A plain failure is reported as an unknown client address or without any
special kind. -/
theorem PlainFailure.kind? (hf : PlainFailure h c t text f) :
    f = .noClientAddress c.request.path ∨ f.kind? = some .evaluation := by
  cases hf with
  | address => exact Or.inl rfl
  | arity | operand | result => exact Or.inr rfl

/-- A failure in a call is an error of evaluation that the function raised, or
is reported without any special kind. -/
theorem toFault_cases (e : CallFailure) (name : String) :
    (e = .fault (e.toFault name) ∧ (e.toFault name).isEvaluation = true) ∨
      (e.toFault name).kind? = some .evaluation := by
  cases e with
  | badArguments | other => exact Or.inr rfl
  | fault f =>
    rw [CallFailure.toFault]
    split
    · exact Or.inl ⟨rfl, ‹_›⟩
    · exact Or.inr rfl

theorem isEvaluation_of_kind? (hkind : f.kind? = some .evaluation) :
    f.isEvaluation = true := by
  rw [Fault.kind?, Option.map_eq_some_iff] at hkind
  obtain ⟨r, hr, hkind⟩ := hkind
  rw [Fault.isEvaluation, hr]
  simp only [hkind]
  rfl

/-! ## Values of admitted trees -/

/-- Trees that stand for truth values have truth values, unless an added
function gives something else. -/
theorem isTruth_of_isBooleanKinded
    (hcalls : ∀ name args, t.HasCall name args → h.overrides name = false)
    (haccepted : t.Accepted) (hkind : t.IsBooleanKinded) {v : Literal}
    (hv : t.eval (h.environment c) = .ok v) :
    v.IsTruth := by
  cases t with
  | constant w =>
    cases hv
    exact hkind
  | name x =>
    exact valueOf?_isTruth hkind (Environment.variable_eq_ok_iff.mp hv)
  | conj xs | disj xs =>
    rw [Tree.eval] at hv
    exact isTruth_of_map hv
  | negation x =>
    rw [Tree.eval, bind_eq_ok_iff] at hv
    obtain ⟨_, -, hv⟩ := hv
    obtain ⟨b, -, hv⟩ := bind_eq_ok_iff.mp hv
    cases hv
    exact ⟨_, rfl⟩
  | comparison x links =>
    rw [Tree.eval, bind_eq_ok_iff] at hv
    obtain ⟨_, -, hv⟩ := hv
    obtain ⟨b, -, hv⟩ := bind_eq_ok_iff.mp hv
    cases hv
    exact ⟨b, rfl⟩
  | call callee xs k =>
    obtain ⟨name, args, rfl, rfl⟩ := haccepted.call
    rw [Tree.eval, bind_eq_ok_iff] at hv
    obtain ⟨g, hg, hv⟩ := hv
    rw [Tree.evalList_constants] at hv
    have hv : g args = .ok v := mapError_eq_ok_iff.mp hv
    rcases functions_eq_some (Environment.function_eq_ok_iff.mp hg) with
      ⟨added, hadded, -⟩ | ⟨-, hg⟩
    · have hoverrides := hcalls name args ⟨k, .refl _⟩
      rw [overrides_eq_false_iff.mp hoverrides] at hadded
      cases hadded
    · exact builtin?_ok hg hv
  | signed s | unsupported c => cases hkind

/-! ## Evaluation of requirements -/

theorem evaluate_raw {text : Option String} (c : Context)
    (ht : Expression.compile text = .ok t) :
    h.evaluate c (.raw text) =
      t.evaluate (h.environment c) (text.getD "") := by
  rw [evaluate, evaluateText, ht]
  rfl

/-- A requirement that was validated fails with errors of evaluation only. -/
theorem isEvaluation_of_validate {r : Requirement}
    (hvalid : h.validate (.requirement r) = .ok ())
    (he : h.evaluate c r = .error f) :
    f.isEvaluation = true := by
  cases r with
  | raw text =>
    obtain ⟨t, ht, hadmits⟩ := exists_admits_of_validate hvalid
    rw [evaluate_raw c ht] at he
    rcases failure_of_evaluate_error hadmits he with hf | ⟨name, e, -, rfl⟩
    · exact hf.isEvaluation
    · rcases toFault_cases e name with ⟨-, hf⟩ | hkind
      · exact hf
      · exact isEvaluation_of_kind? hkind
  | ipAddress m =>
    obtain ⟨-, rfl⟩ := clientIn_error he
    rfl
  | custom kindName expression shown =>
    cases he
    rfl
  | _ => cases he

/-! ## Validated expressions -/

theorem not_addedFails {name : String} {e : CallFailure}
    (hcalls : ∀ name args, t.HasCall name args → h.overrides name = false) :
    ¬ h.AddedFails c t name e := by
  rintro ⟨args, g, hcall, hg, -⟩
  rw [overrides_eq_false_iff.mp (hcalls name args hcall)] at hg
  cases hg

/-- A plain failure has one of the causes that the number of arguments, the
kinds of operands and a client address exclude. -/
theorem not_plainFailure (hadmits : h.Admits t)
    (hcalls : ∀ name args, t.HasCall name args → h.overrides name = false)
    (htakes : ∀ name args, t.HasCall name args →
      takes name args.length = true)
    (hkind : t.IsBooleanKinded)
    (hoperands : ∀ x, t.HasOperand x → x.IsBooleanKinded)
    (haddress : c.request.remoteAddress ≠ none) :
    ¬ PlainFailure h c t text f := by
  intro hf
  cases hf with
  | address _ hnone => exact haddress hnone
  | arity hcall _ hfalse =>
    rw [htakes _ _ hcall] at hfalse
    cases hfalse
  | @operand x v hx hv hnot =>
    have hcontains := hx.contains
    exact hnot (isTruth_of_isBooleanKinded
      (fun name args hcall => hcalls name args (hcall.of_contains hcontains))
      (hadmits.accepted.of_contains hcontains) (hoperands x hx) hv)
  | result hv hnot =>
    exact hnot (isTruth_of_isBooleanKinded hcalls hadmits.accepted hkind hv)

/-- What holds for the evaluation of a text whose tree is known. -/
structure Sound (h : Handler) (text : Option String) (t : Tree) : Prop where
  /-- All errors are errors of evaluation. -/
  evaluation : ∀ c f, h.evaluate c (.raw text) = .error f →
    f.isEvaluation = true
  /-- A missing function, or anything missing but the client address, was
  reported by an added function itself. -/
  missing : ∀ c f, h.evaluate c (.raw text) = .error f →
    f.kind? = some .unknownFunction ∨
      (f.kind? = some .missingCapability ∧
        f ≠ .noClientAddress c.request.path) →
    ∃ name, h.AddedFails c t name (.fault f)
  /-- Where no added function is called, no other failures than the plain ones
  are left. -/
  plain : (∀ name args, t.HasCall name args → h.overrides name = false) →
    ∀ c f, h.evaluate c (.raw text) = .error f →
      PlainFailure h c t (text.getD "") f
  /-- If in addition the number of arguments and the kinds of operands are
  right, there is a truth value. -/
  total : (∀ name args, t.HasCall name args → h.overrides name = false) →
    (∀ name args, t.HasCall name args → takes name args.length = true) →
    t.IsBooleanKinded → (∀ x, t.HasOperand x → x.IsBooleanKinded) →
    ∀ c, c.request.remoteAddress ≠ none →
      ∃ b, h.evaluate c (.raw text) = .ok b

/-- The evaluation of a validated expression fails only for reasons that lie in
the request, in the number of arguments, in the kinds of values, or in added
functions.

Escapes by name are not read, and those of surrogates all give the replacement
character; see `Expression.Escape.read`. -/
theorem sound_of_validate {h : Handler} {text : Option String}
    (hvalid : h.validate (.requirement (.raw text)) = .ok ()) :
    ∃ t, Expression.compile text = .ok t ∧ h.Sound text t := by
  obtain ⟨t, ht, hadmits⟩ := exists_admits_of_validate hvalid
  refine ⟨t, ht, ?_, ?_, ?_, ?_⟩
  · intro c f hf
    exact isEvaluation_of_validate hvalid hf
  · intro c f hf hmissing
    rw [evaluate_raw c ht] at hf
    rcases failure_of_evaluate_error hadmits hf with hf | ⟨name, e, hfails, rfl⟩
    · rcases hf.kind? with rfl | hkind
      · rcases hmissing with hmissing | ⟨-, hne⟩
        · cases hmissing
        · exact absurd rfl hne
      · rw [hkind] at hmissing
        simp at hmissing
    · rcases toFault_cases e name with ⟨he, -⟩ | hkind
      · exact ⟨name, he ▸ hfails⟩
      · rw [hkind] at hmissing
        simp at hmissing
  · intro hcalls c f hf
    rw [evaluate_raw c ht] at hf
    rcases failure_of_evaluate_error hadmits hf with hf | ⟨name, e, hfails, -⟩
    · exact hf
    · exact absurd hfails (not_addedFails hcalls)
  · intro hcalls htakes hkind hoperands c haddress
    rw [evaluate_raw c ht]
    cases hvalue : t.evaluate (h.environment c) (text.getD "") with
    | ok b => exact ⟨b, rfl⟩
    | error f =>
      rcases failure_of_evaluate_error hadmits hvalue with
        hf | ⟨name, e, hfails, -⟩
      · exact absurd hf (not_plainFailure hadmits hcalls htakes hkind
          hoperands haddress)
      · exact absurd hfails (not_addedFails hcalls)

/-- A conjunction with an address and an added function. -/
theorem sound_of_validate_address :
    let h := make .standard [("isOwner", fun _ _ => .ok (.truth true))]
    let text := "isOwner(1) and not hasIpAddress('10.0.0.0/8')"
    h.validate (.requirement (.raw text)) = .ok () ∧
      ∃ t, Expression.compile text = .ok t ∧ h.Sound text t :=
  ⟨by decide +kernel, sound_of_validate (by decide +kernel)⟩

end Handler

end AccessRules
