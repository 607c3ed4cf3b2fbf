import AccessRules.Expression.Evaluation
import AccessRules.Proofs.Expression.Parts
import AccessRules.Proofs.Outcome

/-!
# Where errors of an evaluation come from

The evaluation of a tree stops at the first part of it that has no value.  So an
error of a whole tree is the error of a single part: an operand that is no truth
value, a name without a value, a call of a function that does not exist, or a
call that fails.

An operand is a part that `and`, `or` or `not` applies to.
-/

namespace AccessRules

/-- A literal that is a truth value. -/
def Literal.IsTruth (v : Literal) : Prop :=
  ∃ b, v = .truth b

namespace Expression

open Outcome

/-- The trees that a logical operator within a tree applies to. -/
inductive Tree.HasOperand (t : Tree) : Tree → Prop
  | conj {xs : List Tree} {x : Tree} (h : t.Contains (.conj xs))
      (hx : x ∈ xs) : HasOperand t x
  | disj {xs : List Tree} {x : Tree} (h : t.Contains (.disj xs))
      (hx : x ∈ xs) : HasOperand t x
  | negation {x : Tree} (h : t.Contains (.negation x)) : HasOperand t x

/-- The part of a tree that an error of its evaluation comes from. -/
inductive Origin (env : Environment) (t : Tree) : Fault → Prop
  | operand {x : Tree} {v : Literal} (hx : t.HasOperand x)
      (hv : x.eval env = .ok v) (hnot : ¬ v.IsTruth) :
      Origin env t (.operandNotTruth v)
  | name {x : String} (hx : t.Contains (.name x))
      (hnone : env.values x = none) :
      Origin env t (.missingName x)
  | function {f : String} {args : List Literal} (hf : t.HasCall f args)
      (hnone : env.functions f = none) :
      Origin env t (.missingFunction f)
  | call {f : String} {args : List Literal} {g : Function}
      {e : CallFailure} (hf : t.HasCall f args)
      (hg : env.functions f = some g) (he : g args = .error e) :
      Origin env t (e.toFault f)

theorem Tree.HasOperand.contains {t x : Tree} (h : t.HasOperand x) :
    t.Contains x := by
  cases h with
  | conj h hx =>
    exact h.trans (contains_of_mem_children (List.mem_map_of_mem hx))
  | disj h hx =>
    exact h.trans (contains_of_mem_children (List.mem_map_of_mem hx))
  | negation h =>
    exact h.trans (contains_of_mem_children (List.mem_singleton_self _))

theorem Tree.HasOperand.of_contains {t u x : Tree} (htu : t.Contains u)
    (h : u.HasOperand x) :
    t.HasOperand x := by
  cases h with
  | conj h hx => exact .conj (htu.trans h) hx
  | disj h hx => exact .disj (htu.trans h) hx
  | negation h => exact .negation (htu.trans h)

theorem Tree.HasCall.of_contains {t u : Tree} {f : String}
    {args : List Literal} (htu : t.Contains u) (h : u.HasCall f args) :
    t.HasCall f args := by
  obtain ⟨k, h⟩ := h
  exact ⟨k, htu.trans h⟩

/-- An error of a part is an error of the whole. -/
theorem Origin.of_contains {env : Environment} {t u : Tree} {f : Fault}
    (htu : t.Contains u) (h : Origin env u f) :
    Origin env t f := by
  cases h with
  | operand hx hv hnot => exact .operand (hx.of_contains htu) hv hnot
  | name hx hnone => exact .name (htu.trans hx) hnone
  | function hf hnone => exact .function (hf.of_contains htu) hnone
  | call hf hg he => exact .call (hf.of_contains htu) hg he

/-! ## Truth values -/

theorem truthOf_eq_error_iff {v : Literal} {f : Fault} :
    truthOf v = .error f ↔ ¬ v.IsTruth ∧ f = .operandNotTruth v := by
  cases v with
  | truth b => simp [truthOf, Literal.IsTruth]
  | _ => simp [truthOf, Literal.IsTruth, eq_comm]

/-! ## Names -/

namespace Environment

variable {env : Environment} {name : String} {f : Fault}

theorem variable_eq_ok_iff {v : Literal} :
    env.variable name = .ok v ↔ env.values name = some v := by
  rw [Environment.variable]
  cases env.values name with
  | none => simp
  | some w => simp

theorem variable_eq_error_iff :
    env.variable name = .error f ↔
      env.values name = none ∧ f = .missingName name := by
  rw [Environment.variable]
  cases env.values name with
  | none => simp [eq_comm]
  | some v => simp

theorem function_eq_ok_iff {g : Function} :
    env.function name = .ok g ↔ env.functions name = some g := by
  rw [Environment.function]
  cases env.functions name with
  | none => simp
  | some g' => simp

theorem function_eq_error_iff :
    env.function name = .error f ↔
      env.functions name = none ∧ f = .missingFunction name := by
  rw [Environment.function]
  cases env.functions name with
  | none => simp [eq_comm]
  | some g => simp

end Environment

namespace Tree

variable {env : Environment} {f : Fault}

/-- An operand that gives no truth value: it has no value at all, or a value of
another kind. -/
def FailsAsOperand (env : Environment) (x : Tree) (f : Fault) : Prop :=
  x.eval env = .error f ∨
    ∃ v, x.eval env = .ok v ∧ ¬ v.IsTruth ∧ f = .operandNotTruth v

/-- Where an operand is evaluated before the rest, the operand fails or the rest
does. -/
theorem failsAsOperand_or_rest {α : Type} {x : Tree}
    {rest : Bool → Except Fault α} (h : (do
      let v ← x.eval env
      let b ← truthOf v
      rest b) = .error f) :
    FailsAsOperand env x f ∨ ∃ b, rest b = .error f := by
  rcases bind_eq_error_iff.mp h with h | ⟨v, hv, h⟩
  · exact Or.inl (Or.inl h)
  · rcases bind_eq_error_iff.mp h with h | ⟨b, -, h⟩
    · exact Or.inl (Or.inr ⟨v, hv, truthOf_eq_error_iff.mp h⟩)
    · exact Or.inr ⟨b, h⟩

/-! ## Errors of lists of trees -/

theorem evalAll_error {xs : List Tree} (h : evalAll env xs = .error f) :
    ∃ x ∈ xs, FailsAsOperand env x f := by
  induction xs with
  | nil => cases h
  | cons x xs ih =>
    rw [evalAll] at h
    rcases failsAsOperand_or_rest h with hx | ⟨b, hrest⟩
    · exact ⟨x, List.mem_cons_self, hx⟩
    · have hxs : evalAll env xs = .error f := by
        cases b with
        | true => exact hrest
        | false => cases hrest
      obtain ⟨y, hy, hfails⟩ := ih hxs
      exact ⟨y, List.mem_cons_of_mem x hy, hfails⟩

theorem evalAny_error {xs : List Tree} (h : evalAny env xs = .error f) :
    ∃ x ∈ xs, FailsAsOperand env x f := by
  induction xs with
  | nil => cases h
  | cons x xs ih =>
    rw [evalAny] at h
    rcases failsAsOperand_or_rest h with hx | ⟨b, hrest⟩
    · exact ⟨x, List.mem_cons_self, hx⟩
    · have hxs : evalAny env xs = .error f := by
        cases b with
        | true => cases hrest
        | false => exact hrest
      obtain ⟨y, hy, hfails⟩ := ih hxs
      exact ⟨y, List.mem_cons_of_mem x hy, hfails⟩

/-- A chain of comparisons for equality fails only with one of its operands. -/
theorem evalLinks_error {left : Literal} {links : List (Comparator × Tree)}
    (hlinks : ∀ l ∈ links, (Node.comparator l.1).offence? = none)
    (h : evalLinks env left links = .error f) :
    ∃ l ∈ links, l.2.eval env = .error f := by
  induction links generalizing left with
  | nil => cases h
  | cons link links ih =>
    obtain ⟨c, x⟩ := link
    rw [List.forall_mem_cons] at hlinks
    rw [evalLinks, bind_eq_error_iff] at h
    rcases h with h | ⟨right, -, h⟩
    · exact ⟨(c, x), List.mem_cons_self, h⟩
    · rw [bind_eq_error_iff] at h
      rcases h with h | ⟨b, -, h⟩
      · have hc := hlinks.1
        cases c with
        | equal | unequal => cases h
        | _ => cases hc
      · cases b with
        | false => cases h
        | true =>
          obtain ⟨l, hl, herror⟩ := ih hlinks.2 h
          exact ⟨l, List.mem_cons_of_mem _ hl, herror⟩

/-- Literal arguments have their values. -/
theorem evalList_constants (env : Environment) (args : List Literal) :
    evalList env (args.map .constant) = .ok args := by
  induction args with
  | nil => rfl
  | cons v args ih =>
    rw [List.map_cons, evalList, eval, ih]
    rfl

/-! ## Errors of trees -/

/-- An operand that fails has an error of its own or one that comes from within
it. -/
theorem FailsAsOperand.origin {t x : Tree} (h : FailsAsOperand env x f)
    (hx : t.HasOperand x)
    (ih : ∀ f, x.eval env = .error f → Origin env x f) :
    Origin env t f := by
  rcases h with h | ⟨v, hv, hnot, rfl⟩
  · exact (ih f h).of_contains hx.contains
  · exact .operand hx hv hnot

/-- A comparison of an accepted tree is one for equality. -/
theorem Accepted.offence?_comparator {x : Tree}
    {links : List (Comparator × Tree)}
    (h : (Tree.comparison x links).Accepted) :
    ∀ l ∈ links, (Node.comparator l.1).offence? = none := by
  intro l hl
  have hchild : Node.comparator l.1 ∈ (Tree.comparison x links).children := by
    rw [children, List.cons_append, List.mem_cons, List.mem_append]
    exact Or.inr
      (Or.inl (List.mem_map_of_mem (f := fun l => Node.comparator l.1) hl))
  exact h _ (.child hchild .refl)

/-- An error of the evaluation of an accepted tree comes from one of its
parts. -/
theorem origin_of_eval_error {t : Tree} (haccepted : t.Accepted)
    (h : t.eval env = .error f) :
    Origin env t f := by
  induction t using induction_children generalizing f with
  | step t ih =>
  -- trees below an accepted tree are accepted, so each error of theirs comes
  -- from within them
  have ih' : ∀ u, Node.tree u ∈ t.children →
      ∀ f, u.eval env = .error f → Origin env u f := by
    intro u hu f hf
    exact ih u hu (haccepted.of_contains (contains_of_mem_children hu)) hf
  cases t with
  | constant v => cases h
  | name x =>
    obtain ⟨hnone, rfl⟩ := Environment.variable_eq_error_iff.mp h
    exact .name (.refl _) hnone
  | conj xs =>
    rw [eval, map_eq_error_iff] at h
    obtain ⟨x, hx, hfails⟩ := evalAll_error h
    have hchild : Node.tree x ∈ (Tree.conj xs).children :=
      List.mem_map_of_mem hx
    exact hfails.origin (.conj (.refl _) hx) (ih' x hchild)
  | disj xs =>
    rw [eval, map_eq_error_iff] at h
    obtain ⟨x, hx, hfails⟩ := evalAny_error h
    have hchild : Node.tree x ∈ (Tree.disj xs).children :=
      List.mem_map_of_mem hx
    exact hfails.origin (.disj (.refl _) hx) (ih' x hchild)
  | negation x =>
    have hchild : Node.tree x ∈ (Tree.negation x).children :=
      List.mem_singleton_self _
    have hfails : FailsAsOperand env x f := by
      rw [eval] at h
      rcases failsAsOperand_or_rest h with hx | ⟨b, hrest⟩
      · exact hx
      · cases hrest
    exact hfails.origin (.negation (.refl _)) (ih' x hchild)
  | comparison x links =>
    rw [eval, bind_eq_error_iff] at h
    rcases h with h | ⟨v, -, h⟩
    · have hchild : Node.tree x ∈ (Tree.comparison x links).children :=
        List.mem_cons_self
      exact (ih' x hchild f h).of_contains (contains_of_mem_children hchild)
    · rw [bind_eq_error_iff] at h
      rcases h with h | ⟨b, -, h⟩
      · obtain ⟨l, hl, herror⟩ :=
          evalLinks_error haccepted.offence?_comparator h
        have hchild : Node.tree l.2 ∈ (Tree.comparison x links).children :=
          link_mem_children hl
        exact (ih' l.2 hchild f herror).of_contains
          (contains_of_mem_children hchild)
      · cases h
  | call callee xs k =>
    obtain ⟨name, args, rfl, rfl⟩ := haccepted.call
    have hcall : (Tree.call (.name name) (args.map .constant) k).HasCall
        name args :=
      ⟨k, .refl _⟩
    rw [eval, bind_eq_error_iff] at h
    rcases h with h | ⟨g, hg, h⟩
    · obtain ⟨hnone, rfl⟩ := Environment.function_eq_error_iff.mp h
      exact .function hcall hnone
    · rw [evalList_constants] at h
      obtain ⟨e, he, rfl⟩ := mapError_eq_error_iff.mp h
      exact .call hcall (Environment.function_eq_ok_iff.mp hg) he
  | signed s =>
    have hoffence :=
      haccepted (.sign s) (.child (List.mem_singleton_self _) .refl)
    cases hoffence
  | unsupported c => cases haccepted.offence?

end Tree

end Expression

end AccessRules
