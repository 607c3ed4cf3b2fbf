import AccessRules.Expression.Compile

/-!
# Evaluation of expressions

A tree is evaluated in an environment of functions and variables.  The operands
of `and` and of `or` are evaluated from the left until one decides; each must be
a truth value.  A chain of comparisons ends with the first that does not hold.
A function is looked up before its arguments are evaluated, and its failure
becomes an error of evaluation that names it.
-/

namespace AccessRules.Expression

/-- Why a function gives no value: a fault of the library, arguments that it
does not take, by what is said about them, or an error of its own, by its name
and message. -/
inductive CallFailure where
  | fault (f : Fault)
  | badArguments (message : String)
  | other (error message : String)
deriving DecidableEq

/-- A function of an expression. -/
abbrev Function := List Literal → Except CallFailure Literal

/-- What names mean. -/
structure Environment where
  functions : String → Option Function
  values : String → Option Literal

/-- The fault that a failure in a call of a function is.  Errors of evaluation
stay what they are. -/
def CallFailure.toFault (function : String) : CallFailure → Fault
  | badArguments message => .badArguments function message
  | other error message => .failedCall function error message
  | fault f =>
    if f.isEvaluation then f
    else .failedCall function ((f.report?.map (·.kind.name)).getD "") f.message

/-- Calls a function. -/
def Function.call (function : String) (f : Function) (args : List Literal) :
    Except Fault Literal :=
  (f args).mapError (·.toFault function)

/-- The truth value that an operand is. -/
def truthOf : Literal → Except Fault Bool
  | .truth b => .ok b
  | v => .error (.operandNotTruth v)

/-- Whether a comparison of two values holds. -/
def Comparator.holds (c : Comparator) (a b : Literal) : Except Fault Bool :=
  match c with
  | equal => .ok (a.same b)
  | unequal => .ok (!a.same b)
  | c => .error (.unsupportedNode (Construct.comparator c).name)

/-- The value of a name. -/
def Environment.variable (env : Environment) (x : String) :
    Except Fault Literal :=
  match env.values x with
  | some v => .ok v
  | none => .error (.missingName x)

/-- The function with a name. -/
def Environment.function (env : Environment) (f : String) :
    Except Fault Function :=
  match env.functions f with
  | some g => .ok g
  | none => .error (.missingFunction f)

namespace Tree

mutual

/-- The value of a tree. -/
def eval (env : Environment) : Tree → Except Fault Literal
  | .constant v => .ok v
  | .name x => env.variable x
  | .conj xs => (evalAll env xs).map .truth
  | .disj xs => (evalAny env xs).map .truth
  | .negation x => do
    let v ← eval env x
    let b ← truthOf v
    .ok (.truth !b)
  | .comparison x links => do
    let v ← eval env x
    let b ← evalLinks env v links
    .ok (.truth b)
  | .call (.name f) xs _ => do
    let g ← env.function f
    let args ← evalList env xs
    Function.call f g args
  | .call _ _ _ => .error (.unsupportedNode "Call")
  | .signed s => .error (.unsupportedNode (Construct.sign s).name)
  | .unsupported c => .error (.unsupportedNode c.name)

/-- Whether all operands are true. -/
def evalAll (env : Environment) : List Tree → Except Fault Bool
  | [] => .ok true
  | x :: xs => do
    let v ← eval env x
    let b ← truthOf v
    if b then evalAll env xs else .ok false

/-- Whether one of the operands is true. -/
def evalAny (env : Environment) : List Tree → Except Fault Bool
  | [] => .ok false
  | x :: xs => do
    let v ← eval env x
    let b ← truthOf v
    if b then .ok true else evalAny env xs

/-- Whether each operand of a chain compares with the one before it, beginning
with a given value. -/
def evalLinks (env : Environment) (left : Literal) :
    List (Comparator × Tree) → Except Fault Bool
  | [] => .ok true
  | (c, x) :: links => do
    let right ← eval env x
    let b ← c.holds left right
    if b then evalLinks env right links else .ok false

/-- The values of arguments. -/
def evalList (env : Environment) : List Tree → Except Fault (List Literal)
  | [] => .ok []
  | x :: xs => do
    let v ← eval env x
    let vs ← evalList env xs
    .ok (v :: vs)

end

/-- Whether a tree, compiled from a text, is true. -/
def evaluate (env : Environment) (t : Tree) (text : String) :
    Except Fault Bool := do
  let v ← t.eval env
  match v with
  | .truth b => .ok b
  | v => .error (.resultNotTruth v text)

end Tree

end AccessRules.Expression
