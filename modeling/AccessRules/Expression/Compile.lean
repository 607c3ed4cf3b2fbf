import AccessRules.Expression.Reading
import AccessRules.Expression.Walk
import AccessRules.Fault
import AccessRules.Text.Blank

/-!
# Accepted expressions

An access expression may hold names, literals, calls, `and`, `or`, `not`, and
comparisons for equality.  A call names its function directly and has literal
arguments without keywords.

The first part of the tree, in the order of the walk, that breaks these rules is
reported.  At a call, what is called and its keywords are checked before its
arguments.
-/

namespace AccessRules.Expression

/-- What is wrong with a part of a tree. -/
inductive Offence where
  | construct (c : Construct)
  | computedCall
  | computedArgument
deriving DecidableEq, Repr

/-- Whether a tree is a bare name. -/
def Tree.isName : Tree → Bool
  | .name _ => true
  | _ => false

/-- What is wrong with a tree itself, the parts below it apart. -/
def Tree.offence? : Tree → Option Offence
  | .unsupported c => some (.construct c)
  | .call f xs hasKeywords =>
    if !f.isName || hasKeywords then some .computedCall
    else if xs.all (·.literal?.isSome) then none
    else some .computedArgument
  | _ => none

/-- What is wrong with a part of a tree itself. -/
def Node.offence? : Node → Option Offence
  | .tree t | .callee t => t.offence?
  | .sign s => some (.construct (.sign s))
  | .comparator .equal | .comparator .unequal => none
  | .comparator c => some (.construct (.comparator c))

/-- The first offence of a tree in the order of the walk. -/
def Tree.firstOffence? (t : Tree) : Option Offence :=
  t.walk.findSome? Node.offence?

/-- The fault that an offence in a text is. -/
def Offence.fault (text : String) : Offence → Fault
  | .construct c => .unsupportedConstruct c.name text
  | .computedCall => .computedCall text
  | .computedArgument => .computedArgument text

/-- The tree of an access expression.  A missing or blank text is no expression.

Escapes by name are not read, and those of surrogates all give the replacement
character; see `Escape.read`. -/
def compile (text : Option String) : Except Fault Tree :=
  match text with
  | none => .error .emptyExpression
  | some s =>
    let cs := Text.strip s.toList
    if cs = [] then .error .emptyExpression
    else if cs.contains '\x00' then .error .nullCharacter
    else
      match read? cs with
      | none => .error (.unreadableExpression s)
      | some t =>
        match t.firstOffence? with
        | some o => .error (o.fault s)
        | none => .ok t

end AccessRules.Expression
