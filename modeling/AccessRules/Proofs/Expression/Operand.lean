import AccessRules.Proofs.Expression.Growth

/-!
# Truth values of operands

An operand of `and`, `or` or `not` must have a truth value.  Where only truth
values are asked for, `and` and `or` are one operation up to the truth value
that lets them go on to the next operand: both go on as long as their operands
have that value, and have the value of the first operand that does not.
-/

namespace AccessRules

open Expression Outcome

variable {env : Environment} {t x : Tree} {ts us : List Tree}

/-- The truth value of a tree as an operand. -/
def truthAsOperand (env : Environment) (t : Tree) : Except Fault Bool := do
  let v ← t.eval env
  truthOf v

theorem truthAsOperand_eq_ok_iff {b : Bool} :
    truthAsOperand env t = .ok b ↔ t.eval env = .ok (.truth b) := by
  rw [truthAsOperand, bind_eq_ok_iff]
  simp only [truthOf_eq_ok_iff, exists_eq_right]

theorem truthAsOperand_of_eval {y : Except Fault Bool}
    (h : t.eval env = y.map .truth) :
    truthAsOperand env t = y := by
  rw [truthAsOperand, h]
  cases y with
  | ok b => rfl
  | error f => rfl

theorem evaluate_of_eval {y : Except Fault Bool}
    (h : t.eval env = y.map .truth) (text : String) :
    t.evaluate env text = y := by
  rw [Tree.evaluate, h]
  cases y with
  | ok b => rfl
  | error f => rfl

theorem evaluate_eq_ok_iff {text : String} {b : Bool} :
    t.evaluate env text = .ok b ↔ t.eval env = .ok (.truth b) := by
  rw [Tree.evaluate, bind_eq_ok_iff]
  constructor
  · rintro ⟨v, hv, h⟩
    cases v with
    | truth b' =>
      cases h
      exact hv
    | _ => cases h
  · intro h
    exact ⟨.truth b, h, rfl⟩

/-! ## Operands from the left -/

theorem evalAll_cons (t : Tree) (ts : List Tree) :
    Tree.evalAll env (t :: ts) =
      truthAsOperand env t >>= fun b =>
        if b then Tree.evalAll env ts else .ok false := by
  rw [Tree.evalAll, truthAsOperand, bind_assoc]

theorem evalAny_cons (t : Tree) (ts : List Tree) :
    Tree.evalAny env (t :: ts) =
      truthAsOperand env t >>= fun b =>
        if b then .ok true else Tree.evalAny env ts := by
  rw [Tree.evalAny, truthAsOperand, bind_assoc]

theorem evaluate_conj (text : String) :
    (Tree.conj ts).evaluate env text = Tree.evalAll env ts :=
  evaluate_of_eval (by rw [Tree.eval]) text

theorem truthAsOperand_conj (env : Environment) (ts : List Tree) :
    truthAsOperand env (.conj ts) = Tree.evalAll env ts :=
  truthAsOperand_of_eval (by rw [Tree.eval])

theorem truthAsOperand_disj (env : Environment) (ts : List Tree) :
    truthAsOperand env (.disj ts) = Tree.evalAny env ts :=
  truthAsOperand_of_eval (by rw [Tree.eval])

/-- Operands joined by `and`, or by `or`. -/
def Expression.Tree.junction (isConj : Bool) (ts : List Tree) : Tree :=
  if isConj then .conj ts else .disj ts

open Expression.Tree (junction)

@[simp]
theorem junction_true (ts : List Tree) : junction true ts = .conj ts := rfl

@[simp]
theorem junction_false (ts : List Tree) : junction false ts = .disj ts := rfl

theorem eval_junction (env : Environment) (isConj : Bool) (ts : List Tree) :
    (junction isConj ts).eval env =
      (truthAsOperand env (junction isConj ts)).map .truth := by
  cases isConj with
  | true => rw [junction_true, truthAsOperand_conj, Tree.eval]
  | false => rw [junction_false, truthAsOperand_disj, Tree.eval]

@[simp]
theorem truthAsOperand_junction_nil (env : Environment) (isConj : Bool) :
    truthAsOperand env (junction isConj []) = .ok isConj := by
  cases isConj with
  | true => rfl
  | false => rfl

/-- An operand that has the truth value of the operation without operands leaves
the value to the others. -/
theorem truthAsOperand_junction_cons (isConj : Bool) (t : Tree)
    (ts : List Tree) :
    truthAsOperand env (junction isConj (t :: ts)) =
      truthAsOperand env t >>= fun b =>
        if b = isConj then truthAsOperand env (junction isConj ts)
        else .ok b := by
  cases isConj with
  | true =>
    simp only [junction_true, truthAsOperand_conj, evalAll_cons]
    congr 1
    funext b
    cases b <;> rfl
  | false =>
    simp only [junction_false, truthAsOperand_disj, evalAny_cons]
    congr 1
    funext b
    cases b <;> rfl

theorem truthAsOperand_junction_append (isConj : Bool) (ts us : List Tree) :
    truthAsOperand env (junction isConj (ts ++ us)) =
      truthAsOperand env (junction isConj ts) >>= fun b =>
        if b = isConj then truthAsOperand env (junction isConj us)
        else .ok b := by
  induction ts with
  | nil => simp [bind, Except.bind]
  | cons t ts ih =>
    rw [List.cons_append, truthAsOperand_junction_cons,
      truthAsOperand_junction_cons, bind_assoc]
    congr 1
    funext b
    by_cases hb : b = isConj
    · simp only [hb, if_true, ih]
    · simp only [hb, if_false]
      simp [bind, Except.bind, hb]

/-! ## Negations and comparisons -/

theorem eval_negation (env : Environment) (t : Tree) :
    (Tree.negation t).eval env =
      ((truthAsOperand env t).map (!·)).map .truth := by
  rw [Tree.eval, truthAsOperand]
  cases t.eval env with
  | error f => rfl
  | ok v => cases v <;> rfl

theorem truthAsOperand_negation (env : Environment) (t : Tree) :
    truthAsOperand env (.negation t) = (truthAsOperand env t).map (!·) :=
  truthAsOperand_of_eval (eval_negation env t)

theorem eval_comparison (env : Environment) (t : Tree)
    (links : List (Comparator × Tree)) :
    (Tree.comparison t links).eval env =
      (t.eval env >>= fun v => Tree.evalLinks env v links).map .truth := by
  rw [Tree.eval]
  cases t.eval env with
  | error f => rfl
  | ok v =>
    change (Tree.evalLinks env v links >>= _) =
        (Tree.evalLinks env v links).map _
    cases Tree.evalLinks env v links with
    | ok b => rfl
    | error f => rfl

theorem truthAsOperand_comparison (env : Environment) (t : Tree)
    (links : List (Comparator × Tree)) :
    truthAsOperand env (.comparison t links) =
      t.eval env >>= fun v => Tree.evalLinks env v links :=
  truthAsOperand_of_eval (eval_comparison env t links)

/-! ## Atoms -/

namespace Expression.Tree

/-- A tree that is no operation on other trees. -/
def isAtom : Tree → Bool
  | conj _ | disj _ | negation _ | comparison _ _ => false
  | _ => true

/-- Whatever is no atom has a truth value if it has a value at all. -/
theorem eval_of_not_isAtom (h : t.isAtom = false) (env : Environment) :
    t.eval env = (truthAsOperand env t).map .truth := by
  cases t with
  | conj ts => exact eval_junction env true ts
  | disj ts => exact eval_junction env false ts
  | negation x => rw [truthAsOperand_negation, eval_negation]
  | comparison x links => rw [truthAsOperand_comparison, eval_comparison]
  | _ => cases h

end Expression.Tree

end AccessRules
