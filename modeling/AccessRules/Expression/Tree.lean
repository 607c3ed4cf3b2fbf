import AccessRules.Expression.Literal

/-!
# Expression trees

A tree keeps every construct that an access expression may use.  Any other
construct is kept by its kind alone: no accepted expression contains one, and
the search for the first construct that is not allowed stops there.
-/

namespace AccessRules.Expression

/-- Comparisons; only the first two are allowed. -/
inductive Comparator where
  | equal
  | unequal
  | less
  | atMost
  | greater
  | atLeast
  | same
  | different
  | within
  | outside
deriving DecidableEq, Repr

/-- Signs in front of an operand. -/
inductive Sign where
  | plus
  | minus
  | complement
deriving DecidableEq, Repr

/-- Constructs that no access expression may use. -/
inductive Construct where
  | sign (s : Sign)
  | comparator (c : Comparator)
  | arithmetic
  | member
  | subscript
  | starred
  | conditional
  | lambda
  | tuple
  | list
  | dict
  | set
  | listComprehension
  | setComprehension
  | dictComprehension
  | generator
  | await
  | yield
  | yieldFrom
  | formatted
  | assignment
deriving DecidableEq, Repr

/-- The name of a construct in messages. -/
def Construct.name : Construct → String
  | sign .plus => "UAdd"
  | sign .minus => "USub"
  | sign .complement => "Invert"
  | comparator .equal => "Eq"
  | comparator .unequal => "NotEq"
  | comparator .less => "Lt"
  | comparator .atMost => "LtE"
  | comparator .greater => "Gt"
  | comparator .atLeast => "GtE"
  | comparator .same => "Is"
  | comparator .different => "IsNot"
  | comparator .within => "In"
  | comparator .outside => "NotIn"
  | arithmetic => "BinOp"
  | member => "Attribute"
  | subscript => "Subscript"
  | starred => "Starred"
  | conditional => "IfExp"
  | lambda => "Lambda"
  | tuple => "Tuple"
  | list => "List"
  | dict => "Dict"
  | set => "Set"
  | listComprehension => "ListComp"
  | setComprehension => "SetComp"
  | dictComprehension => "DictComp"
  | generator => "GeneratorExp"
  | await => "Await"
  | yield => "Yield"
  | yieldFrom => "YieldFrom"
  | formatted => "JoinedStr"
  | assignment => "NamedExpr"

/-- The tree of an expression. -/
inductive Tree where
  | constant (v : Literal)
  | name (s : String)
  | conj (operands : List Tree)
  | disj (operands : List Tree)
  | negation (operand : Tree)
  | signed (s : Sign)
  | comparison (first : Tree) (rest : List (Comparator × Tree))
  | call (callee : Tree) (arguments : List Tree) (hasKeywords : Bool)
  | unsupported (c : Construct)

namespace Tree

instance : Inhabited Tree := ⟨.unsupported .tuple⟩

mutual

/-- Equality of trees, decided operand by operand. -/
def beq : Tree → Tree → Bool
  | .constant v, .constant w => decide (v = w)
  | .name s, .name t => s == t
  | .conj xs, .conj ys => beqList xs ys
  | .disj xs, .disj ys => beqList xs ys
  | .negation x, .negation y => beq x y
  | .signed s, .signed t => decide (s = t)
  | .comparison x xs, .comparison y ys => beq x y && beqLinks xs ys
  | .call f xs k, .call g ys l => beq f g && beqList xs ys && k == l
  | .unsupported c, .unsupported d => decide (c = d)
  | _, _ => false

/-- Equality of lists of trees. -/
def beqList : List Tree → List Tree → Bool
  | [], [] => true
  | x :: xs, y :: ys => beq x y && beqList xs ys
  | _, _ => false

/-- Equality of the links of two comparison chains. -/
def beqLinks : List (Comparator × Tree) → List (Comparator × Tree) → Bool
  | [], [] => true
  | (c, x) :: xs, (d, y) :: ys => decide (c = d) && beq x y && beqLinks xs ys
  | _, _ => false

end

mutual

theorem beq_self : ∀ t : Tree, beq t t = true
  | .constant _ | .name _ | .signed _ | .unsupported _ => by simp [beq]
  | .conj xs | .disj xs => by simp [beq, beqList_self xs]
  | .negation x => by simp [beq, beq_self x]
  | .comparison x xs => by simp [beq, beq_self x, beqLinks_self xs]
  | .call f xs _ => by simp [beq, beq_self f, beqList_self xs]

theorem beqList_self : ∀ xs : List Tree, beqList xs xs = true
  | [] => by simp [beqList]
  | x :: xs => by simp [beqList, beq_self x, beqList_self xs]

theorem beqLinks_self : ∀ xs : List (Comparator × Tree), beqLinks xs xs = true
  | [] => by simp [beqLinks]
  | (_, x) :: xs => by simp [beqLinks, beq_self x, beqLinks_self xs]

end

mutual

theorem eq_of_beq : ∀ t u : Tree, beq t u = true → t = u
  | .constant _, u, h | .name _, u, h | .signed _, u, h
  | .unsupported _, u, h => by
    cases u <;> simp_all [beq]
  | .conj xs, u, h => by
    cases u with
    | conj ys => rw [beq] at h; rw [eq_of_beqList xs ys h]
    | _ => simp [beq] at h
  | .disj xs, u, h => by
    cases u with
    | disj ys => rw [beq] at h; rw [eq_of_beqList xs ys h]
    | _ => simp [beq] at h
  | .negation x, u, h => by
    cases u with
    | negation y => rw [beq] at h; rw [eq_of_beq x y h]
    | _ => simp [beq] at h
  | .comparison x xs, u, h => by
    cases u with
    | comparison y ys =>
      rw [beq, Bool.and_eq_true] at h
      rw [eq_of_beq x y h.1, eq_of_beqLinks xs ys h.2]
    | _ => simp [beq] at h
  | .call f xs k, u, h => by
    cases u with
    | call g ys l =>
      rw [beq, Bool.and_eq_true, Bool.and_eq_true, beq_iff_eq] at h
      rw [eq_of_beq f g h.1.1, eq_of_beqList xs ys h.1.2, h.2]
    | _ => simp [beq] at h

theorem eq_of_beqList : ∀ xs ys : List Tree, beqList xs ys = true → xs = ys
  | [], [], _ => rfl
  | x :: xs, y :: ys, h => by
    rw [beqList, Bool.and_eq_true] at h
    rw [eq_of_beq x y h.1, eq_of_beqList xs ys h.2]
  | [], _ :: _, h | _ :: _, [], h => by simp [beqList] at h

theorem eq_of_beqLinks :
    ∀ xs ys : List (Comparator × Tree), beqLinks xs ys = true → xs = ys
  | [], [], _ => rfl
  | (c, x) :: xs, (d, y) :: ys, h => by
    rw [beqLinks, Bool.and_eq_true, Bool.and_eq_true, decide_eq_true_eq] at h
    rw [h.1.1, eq_of_beq x y h.1.2, eq_of_beqLinks xs ys h.2]
  | [], _ :: _, h | _ :: _, [], h => by simp [beqLinks] at h

end

instance : DecidableEq Tree := fun t u =>
  if h : beq t u = true then isTrue (eq_of_beq t u h)
  else isFalse fun e => h (e ▸ beq_self t)

end Tree

end AccessRules.Expression
