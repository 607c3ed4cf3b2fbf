import AccessRules.Network.Membership
import AccessRules.Pattern.Ant
import AccessRules.Request

/-!
# Request matchers

A matcher selects requests: by a path pattern, by a regular expression over the
whole path, by the network of the client, or all of them.  Path patterns and
regular expressions may also ask for a method, which is kept in upper case.

Two matchers are equal if they were described alike; a subnet is described by
its expression.
-/

namespace AccessRules

/-- A path pattern with an optional method. -/
structure AntMatcher where
  pattern : String
  method : Option String
  caseSensitive : Bool
deriving DecidableEq

/-- A regular expression over the path with an optional method. -/
structure RegexMatcher where
  pattern : String
  method : Option String
  caseInsensitive : Bool
deriving DecidableEq

/-- A subnet of clients. -/
structure NetworkMatcher where
  expression : String
  subnet : Network.Subnet
deriving DecidableEq

/-- A matcher, or any other value that stands in the place of one. -/
inductive Matcher where
  | ant (m : AntMatcher)
  | regex (m : RegexMatcher)
  | any
  | network (m : NetworkMatcher)
  | other (v : Value)
deriving DecidableEq

/-- A method as matchers keep it; an empty one asks for nothing. -/
def normalMethod : Option String → Option String
  | some m => if m = "" then none else some (Text.upper m)
  | none => none

/-- Whether a request has the method that a matcher asks for. -/
def admitsMethod (method : Option String) (r : Request) : Bool :=
  match method with
  | some m => r.method == m
  | none => true

/-- An optional text in messages. -/
def shownOptional : Option String → String
  | some s => Text.quoted s
  | none => "None"

/-- A truth value in messages. -/
def shownTruth (b : Bool) : String := if b then "True" else "False"

/-- A pattern and a method in square brackets. -/
def bracketed (pattern : String) : Option String → String
  | some m => "[pattern='" ++ pattern ++ "', " ++ m ++ "]"
  | none => "[pattern='" ++ pattern ++ "']"

namespace AntMatcher

/-- The matcher for a path pattern, which must not be empty. -/
def make (pattern : String) (method : Option String) (caseSensitive : Bool) :
    Except Fault AntMatcher :=
  if pattern = "" then .error .emptyAntPattern
  else .ok ⟨pattern, normalMethod method, caseSensitive⟩

/-- Whether the matcher selects a request. -/
def selects (m : AntMatcher) (r : Request) : Bool :=
  admitsMethod m.method r && Pattern.selects m.caseSensitive m.pattern r.path

/-- The form in messages that show how the matcher was made. -/
def shown (m : AntMatcher) : String :=
  "AntPathRequestMatcher(pattern=" ++ Text.quoted m.pattern ++ ", method=" ++
    shownOptional m.method ++ ", case_sensitive=" ++
      shownTruth m.caseSensitive ++ ")"

end AntMatcher

/-- The fault that a problem in a regular expression is. -/
def Regex.Problem.fault (pattern : String) : Regex.Problem → Fault
  | .malformed => .invalidRegex pattern
  | .oversizedRepetition => .oversizedRepetition
  | .oversizedNumber => .oversizedNumber
  | .conflictingFlags => .conflictingFlags

/-- The regular expression that a pattern describes. -/
def Regex.ofPattern (pattern : String) (caseInsensitive : Bool) :
    Except Fault Regex.Node :=
  (Regex.read caseInsensitive pattern.toList).mapError (·.fault pattern)

namespace RegexMatcher

/-- The matcher for a regular expression, which must be well-formed. -/
def make (pattern : String) (method : Option String) (caseInsensitive : Bool) :
    Except Fault RegexMatcher :=
  (Regex.ofPattern pattern caseInsensitive).map fun _ =>
    ⟨pattern, normalMethod method, caseInsensitive⟩

/-- Whether the matcher selects a request. -/
def selects (m : RegexMatcher) (r : Request) : Bool :=
  admitsMethod m.method r &&
    match Regex.ofPattern m.pattern m.caseInsensitive with
    | .ok node => node.matchesAll r.path.toList
    | .error _ => false

/-- The form in messages that show how the matcher was made. -/
def shown (m : RegexMatcher) : String :=
  "RegexRequestMatcher(pattern=" ++ Text.quoted m.pattern ++ ", method=" ++
    shownOptional m.method ++ ", case_insensitive=" ++
      shownTruth m.caseInsensitive ++ ")"

end RegexMatcher

namespace NetworkMatcher

/-- The matcher for a subnet expression. -/
def make (expression : String) : Except Fault NetworkMatcher :=
  (Network.subnetOf expression).map fun s => ⟨expression, s⟩

/-- Whether the matcher selects a request.  A request without a client address
is never selected. -/
def selects (m : NetworkMatcher) (r : Request) : Bool :=
  match r.remoteAddress with
  | some client => m.subnet.admits client
  | none => false

/-- The form in messages. -/
def shown (m : NetworkMatcher) : String :=
  "IpAddressMatcher(expression=" ++ Text.quoted m.expression ++ ")"

end NetworkMatcher

namespace Matcher

/-- Whether this is a matcher at all. -/
def isMatcher : Matcher → Bool
  | other _ => false
  | _ => true

/-- The method that a matcher asks for. -/
def method? : Matcher → Option String
  | ant m => m.method
  | regex m => m.method
  | _ => none

/-- Whether a matcher selects a request. -/
def selects (r : Request) : Matcher → Bool
  | ant m => m.selects r
  | regex m => m.selects r
  | any => true
  | network m => m.selects r
  | other _ => false

/-- The form of a matcher in messages that show how it was made. -/
def shown : Matcher → String
  | ant m => m.shown
  | regex m => m.shown
  | any => "AnyRequestMatcher()"
  | network m => m.shown
  | other v => v.shown

/-- The text of a matcher. -/
def text : Matcher → String
  | ant m => "Ant " ++ bracketed m.pattern m.method
  | regex m => "Regex " ++ bracketed m.pattern m.method
  | any => "any request"
  | network m => m.shown
  | other (.text s) => s
  | other v => v.shown

end Matcher

end AccessRules
