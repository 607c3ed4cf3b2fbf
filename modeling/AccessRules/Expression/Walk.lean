import AccessRules.Expression.Tree
import AccessRules.Text.Sorted

/-!
# Walking through a tree

The parts of a tree are visited in breadth-first order: a queue holds the parts
still to be visited, and the parts below the one that is visited go to its end.
The signs and comparisons of a tree are parts of their own, visited where they
stand: a sign before its operand, the comparisons of a chain between its first
operand and the others.

Two collections are made on the way: the calls with literal arguments, and the
names.  A name is a function where it is called and a variable elsewhere.
-/

namespace AccessRules.Expression

/-- A part of a tree that a walk visits. -/
inductive Node where
  | tree (t : Tree)
  | callee (t : Tree)
  | sign (s : Sign)
  | comparator (c : Comparator)
deriving DecidableEq

namespace Tree

/-- The parts directly below a tree, in order. -/
def children : Tree → List Node
  | .constant _ | .name _ | .unsupported _ => []
  | .conj xs | .disj xs => xs.map .tree
  | .negation x => [.tree x]
  | .signed s => [.sign s]
  | .comparison x links =>
    .tree x :: links.map (.comparator ·.1) ++ links.map (.tree ·.2)
  | .call f xs _ => .callee f :: xs.map .tree

mutual

/-- The number of parts of a tree. -/
def size : Tree → Nat
  | .constant _ | .name _ | .unsupported _ => 1
  | .conj xs | .disj xs => sizeList xs + 1
  | .negation x => size x + 1
  | .signed _ => 2
  | .comparison x links => size x + sizeLinks links + 1
  | .call f xs _ => size f + sizeList xs + 1

/-- The number of parts of a list of trees. -/
def sizeList : List Tree → Nat
  | [] => 0
  | x :: xs => size x + sizeList xs

/-- The number of parts of the links of a comparison chain. -/
def sizeLinks : List (Comparator × Tree) → Nat
  | [] => 0
  | (_, x) :: xs => size x + 1 + sizeLinks xs

end

end Tree

/-- The parts directly below a part. -/
def Node.children : Node → List Node
  | .tree t | .callee t => t.children
  | .sign _ | .comparator _ => []

/-- Visits at most as many parts as the first argument says, beginning with a
queue of parts. -/
def walkFrom : Nat → List Node → List Node
  | 0, _ => []
  | _ + 1, [] => []
  | fuel + 1, n :: queue => n :: walkFrom fuel (queue ++ n.children)

namespace Tree

/-- All parts of a tree in breadth-first order. -/
def walk (t : Tree) : List Node :=
  walkFrom t.size [.tree t]

/-- The literal of a constant. -/
def literal? : Tree → Option Literal
  | .constant v => some v
  | _ => none

/-- The name and the literal arguments of the call at a part, if the part is a
call of a name. -/
def callAt? : Node → Option (String × List Literal)
  | .tree (.call (.name f) xs _) | .callee (.call (.name f) xs _) =>
    some (f, xs.filterMap literal?)
  | _ => none

/-- The calls of a tree with their arguments, in the order of the walk. -/
def calls (t : Tree) : List (String × List Literal) :=
  t.walk.filterMap callAt?

/-- The argument lists of all calls of one function, in the order of the
walk. -/
def callArguments (t : Tree) (function : String) : List (List Literal) :=
  t.calls.filterMap fun (f, args) => if f = function then some args else none

/-- The name at a part that is called. -/
def functionAt? : Node → Option String
  | .callee (.name f) => some f
  | _ => none

/-- The name at a part that is not called. -/
def variableAt? : Node → Option String
  | .tree (.name x) => some x
  | _ => none

/-- The distinct names that are called, in ascending order. -/
def functionNames (t : Tree) : List String :=
  Text.sortTexts (t.walk.filterMap functionAt?)

/-- The distinct names that occur without being called, in ascending order. -/
def variableNames (t : Tree) : List String :=
  Text.sortTexts (t.walk.filterMap variableAt?)

end Tree

end AccessRules.Expression
