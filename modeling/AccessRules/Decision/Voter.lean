import AccessRules.Handler
import AccessRules.Log

/-!
# Voters

A voter has an opinion on whether a request with given attributes is let
through, or has none.

The expression voter looks at the requirements among the attributes.  It has no
opinion if there are none, grants access if all of them hold, and denies it at
the first that does not.
-/

namespace AccessRules

/-- An opinion. -/
inductive Vote where
  | granted
  | abstain
  | denied
deriving DecidableEq, Repr

namespace Vote

/-- The public name of a vote. -/
def name : Vote → String
  | granted => "GRANTED"
  | abstain => "ABSTAIN"
  | denied => "DENIED"

/-- The number of a vote. -/
def number : Vote → Int
  | granted => 1
  | abstain => 0
  | denied => -1

end Vote

/-- What decides on a request by its attributes. -/
structure Voter where
  vote : Context → List Attribute → Logged (Except Fault Vote)

namespace Voter

/-- The voter that always gives one answer. -/
def fixed (answer : Except Fault Vote) : Voter := ⟨fun _ _ => .quiet answer⟩

/-- Whether the expression voter understands an attribute. -/
def supports (a : Attribute) : Bool := a.requirement?.isSome

/-- The report that a requirement does not hold. -/
def dissatisfaction (c : Context) (r : Requirement) : Record :=
  ⟨.debug, .voter,
    "Denied " ++ c.request.method ++ " " ++ c.request.path ++ " for " ++
      c.security.principal.getD "None" ++ ": " ++ r.expression ++
      " not satisfied"⟩

/-- The vote on requirements, all of which must hold. -/
def voteOn (h : Handler) (c : Context) :
    List Requirement → Logged (Except Fault Vote)
  | [] => .quiet (.ok .granted)
  | r :: rs =>
    match h.evaluate c r with
    | .ok true => voteOn h c rs
    | .ok false => ⟨.ok .denied, [dissatisfaction c r]⟩
    | .error f => .quiet (.error f)

/-- The voter that evaluates requirements with a handler. -/
def expression (h : Handler) : Voter where
  vote c attributes :=
    match attributes.filterMap Attribute.requirement? with
    | [] => .quiet (.ok .abstain)
    | rs => voteOn h c rs

end Voter

end AccessRules
