import AccessRules.Attribute

/-!
# Rules

A rule asks something of the requests that its patterns select.  It has at least
one pattern and at least one attribute, and all its patterns are request
matchers.

Where a rule is registered, patterns and attributes are given as collections.  A
single one in the place of a collection is refused.  A text among the attributes
becomes a token.
-/

namespace AccessRules

/-- A rule. -/
structure Rule where
  patterns : List Matcher
  attributes : List Attribute
deriving DecidableEq

namespace Rule

/-- The rule with the given patterns and attributes. -/
def make (patterns : List Matcher) (attributes : List Attribute) :
    Except Fault Rule :=
  if patterns = [] then .error .noPatterns
  else if attributes = [] then .error .noAttributes
  else
    match patterns.find? (!·.isMatcher) with
    | some m => .error (.notAMatcher m.shown)
    | none => .ok ⟨patterns, attributes⟩

end Rule

/-- An attribute as rules keep it: a text becomes a token, and any other value
is refused. -/
def Attribute.normal : Attribute → Except Fault Attribute
  | .other (.text s) =>
    if s = "" then .error (.unsupportedAttribute (Text.quoted s))
    else .ok (.token s)
  | .other v => .error (.unsupportedAttribute v.shown)
  | a => .ok a

/-- What is given where a collection is asked for: a collection, or one thing in
its place. -/
inductive Batch (α : Type) where
  | many (members : List α)
  | one (x : α)
deriving DecidableEq

/-- The members of a value that is a collection itself. -/
def Value.members? : Value → Option (List Value)
  | .list vs => some vs
  | .dict es => some (es.map (.text ·.1))
  | _ => none

/-- The patterns in a collection.  A single matcher or text is refused. -/
def patternsOf : Batch Matcher → Except Fault (List Matcher)
  | .many ms => .ok ms
  | .one (.other (.text s)) => .error (.barePatterns (Text.quoted s))
  | .one (.other v) =>
    match v.members? with
    | some vs => .ok (vs.map .other)
    | none => .error .notACollection
  | .one m => .error (.barePatterns m.shown)

/-- The attributes in a collection.  A single attribute or text is refused. -/
def attributesOf : Batch Attribute → Except Fault (List Attribute)
  | .many as => .ok as
  | .one (.other (.text s)) => .error (.bareAttributes (Text.quoted s))
  | .one (.other v) =>
    match v.members? with
    | some vs => .ok (vs.map .other)
    | none => .error .notACollection
  | .one a => .error (.bareAttributes a.shown)

end AccessRules
