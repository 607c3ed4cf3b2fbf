import AccessRules.Proofs.Expression.Dependence

/-!
# Expressions that can only become true

A tree that is true in one environment is true in a second one if the calls that
are true in the first one are true in the second one as well, and if its
negations and comparisons do not tell the two apart.

In the second environment, other operands may be evaluated than in the first
one.  All operands must therefore have truth values there.
-/

namespace AccessRules.Expression

open Outcome

theorem truthOf_eq_ok_iff {v : Literal} {b : Bool} :
    truthOf v = .ok b ↔ v = .truth b := by
  cases v with
  | truth a => simp [truthOf]
  | _ => simp [truthOf]

theorem map_truth_eq_true_iff {ε : Type} {x : Except ε Bool} :
    x.map Literal.truth = .ok (.truth true) ↔ x = .ok true := by
  rw [map_eq_ok_iff]
  constructor
  · rintro ⟨b, hb, htrue⟩
    cases htrue
    exact hb
  · intro hx
    exact ⟨true, hx, rfl⟩

namespace Tree

variable {env env' : Environment}

/-! ## Lists of operands -/

/-- Where an operand is evaluated before the rest, there is a value if the
operand has a truth value and the rest goes well with it. -/
theorem operand_eq_ok_iff {α : Type} {x : Tree} {rest : Bool → Except Fault α}
    {a : α} :
    (do
      let v ← x.eval env
      let b ← truthOf v
      rest b) = .ok a ↔
      ∃ b, x.eval env = .ok (.truth b) ∧ rest b = .ok a := by
  rw [bind_eq_ok_iff]
  constructor
  · rintro ⟨v, hv, h⟩
    obtain ⟨b, hb, hrest⟩ := bind_eq_ok_iff.mp h
    rw [truthOf_eq_ok_iff.mp hb] at hv
    exact ⟨b, hv, hrest⟩
  · rintro ⟨b, hb, hrest⟩
    exact ⟨.truth b, hb, hrest⟩

/-- A conjunction is true if and only if all of its operands are. -/
theorem evalAll_eq_true_iff {xs : List Tree} :
    evalAll env xs = .ok true ↔ ∀ x ∈ xs, x.eval env = .ok (.truth true) := by
  induction xs with
  | nil => simp [evalAll]
  | cons x xs ih =>
    rw [evalAll, operand_eq_ok_iff, List.forall_mem_cons, ← ih]
    constructor
    · rintro ⟨b, hx, hrest⟩
      cases b with
      | true => exact ⟨hx, hrest⟩
      | false => cases hrest
    · rintro ⟨hx, hxs⟩
      exact ⟨true, hx, hxs⟩

/-- One of the operands of a true disjunction is true. -/
theorem exists_of_evalAny_eq_true {xs : List Tree}
    (h : evalAny env xs = .ok true) :
    ∃ x ∈ xs, x.eval env = .ok (.truth true) := by
  induction xs with
  | nil => cases h
  | cons x xs ih =>
    rw [evalAny, operand_eq_ok_iff] at h
    obtain ⟨b, hx, hrest⟩ := h
    cases b with
    | true => exact ⟨x, List.mem_cons_self, hx⟩
    | false =>
      obtain ⟨y, hy, hvalue⟩ := ih hrest
      exact ⟨y, List.mem_cons_of_mem x hy, hvalue⟩

/-- A disjunction of truth values is true if one of them is: no operand before
that one fails. -/
theorem evalAny_eq_true_of_mem {xs : List Tree}
    (htotal : ∀ x ∈ xs, ∃ b, x.eval env = .ok (.truth b)) {x : Tree}
    (hx : x ∈ xs) (hvalue : x.eval env = .ok (.truth true)) :
    evalAny env xs = .ok true := by
  induction xs with
  | nil => cases hx
  | cons y xs ih =>
    rw [List.forall_mem_cons] at htotal
    obtain ⟨⟨b, hb⟩, hrest⟩ := htotal
    rw [evalAny, operand_eq_ok_iff]
    refine ⟨b, hb, ?_⟩
    cases b with
    | true => rfl
    | false =>
      rcases List.mem_cons.mp hx with rfl | hx
      · rw [hvalue] at hb
        cases hb
      · exact ih hrest hx

/-! ## Trees -/

/-- Trees that do not pass on the truth of their parts as it is. -/
def IsBarrier : Tree → Prop
  | .negation _ | .comparison _ _ => True
  | _ => False

/-- What is true stays true where calls that are true stay true. -/
theorem eval_eq_true_of_calls {t : Tree} (haccepted : t.Accepted)
    (hcalls : ∀ f args, t.HasCall f args →
      env.call f args = .ok (.truth true) →
      env'.call f args = .ok (.truth true))
    (hnames : ∀ x, t.Contains (.name x) → env.values x = env'.values x)
    (hbarrier : ∀ u, t.Contains u → u.IsBarrier → u.eval env = u.eval env')
    (htotal : ∀ x, t.HasOperand x → ∃ b, x.eval env' = .ok (.truth b))
    (h : t.eval env = .ok (.truth true)) :
    t.eval env' = .ok (.truth true) := by
  induction t using induction_children with
  | step t ih =>
  -- all that is assumed of the tree holds of each part of it
  have ih' : ∀ u, Node.tree u ∈ t.children →
      u.eval env = .ok (.truth true) → u.eval env' = .ok (.truth true) := by
    intro u hu
    have htu := contains_of_mem_children hu
    exact ih u hu (haccepted.of_contains htu)
      (fun f args hf => hcalls f args (hf.of_contains htu))
      (fun x hx => hnames x (htu.trans hx))
      (fun v hv => hbarrier v (htu.trans hv))
      fun x hx => htotal x (hx.of_contains htu)
  cases t with
  | constant v => exact h
  | name x =>
    rw [eval, Environment.variable, hnames x (.refl _)] at h
    exact h
  | conj xs =>
    rw [eval, map_truth_eq_true_iff, evalAll_eq_true_iff] at h ⊢
    intro x hx
    exact ih' x (List.mem_map_of_mem hx) (h x hx)
  | disj xs =>
    rw [eval, map_truth_eq_true_iff] at h ⊢
    obtain ⟨x, hx, hvalue⟩ := exists_of_evalAny_eq_true h
    exact evalAny_eq_true_of_mem
      (fun y hy => htotal y (.disj (.refl _) hy)) hx
      (ih' x (List.mem_map_of_mem hx) hvalue)
  | negation x =>
    rw [← hbarrier _ (.refl _) trivial]
    exact h
  | comparison x links =>
    rw [← hbarrier _ (.refl _) trivial]
    exact h
  | call callee xs k =>
    obtain ⟨f, args, rfl, rfl⟩ := haccepted.call
    rw [eval_call] at h ⊢
    exact hcalls f args ⟨k, .refl _⟩ h
  | signed s | unsupported c => cases h

theorem evaluate_eq_true_iff {t : Tree} {text : String} :
    t.evaluate env text = .ok true ↔ t.eval env = .ok (.truth true) := by
  rw [evaluate, bind_eq_ok_iff]
  constructor
  · rintro ⟨v, hv, h⟩
    cases v with
    | truth b =>
      cases h
      exact hv
    | _ => cases h
  · intro h
    exact ⟨.truth true, h, rfl⟩

end Tree

end AccessRules.Expression
