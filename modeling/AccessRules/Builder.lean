import AccessRules.Decision.Manager
import AccessRules.Rule.Source
import AccessRules.Shorthand

/-!
# Building rules

A builder holds settings, a registry and a handler.  Rules are built in two
steps: a group of patterns is opened, and an access call on the group registers
one rule for its patterns.  A group can be called more than once.

In the end the builder gives a source for lookups, and a manager for decisions.
-/

namespace AccessRules

/-- A group of patterns that waits for access calls. -/
structure Group where
  patterns : List Matcher
deriving DecidableEq

namespace Group

/-- A group of at least one pattern.  The names say what the group is opened
with. -/
def ofPatterns (opener member : String) (make : α → Except Fault Matcher)
    (given : List α) : Except Fault Group :=
  if given.isEmpty then .error (.emptyGroup opener member)
  else (given.mapM make).map .mk

/-- A group of path patterns. -/
def ant (settings : Settings) (patterns : List String)
    (method : Option String) : Except Fault Group :=
  ofPatterns "ant_matchers" "pattern"
    (fun p => (AntMatcher.make p method settings.caseSensitivePaths).map .ant)
    patterns

/-- A group of regular expressions. -/
def regex (patterns : List String) (method : Option String) :
    Except Fault Group :=
  ofPatterns "regex_matchers" "pattern"
    (fun p => (RegexMatcher.make p method false).map .regex) patterns

/-- A group of matchers. -/
def ofMatchers (matchers : List Matcher) : Except Fault Group :=
  ofPatterns "request_matchers" "matcher" .ok matchers

/-- The group of all requests. -/
def any : Group := ⟨[.any]⟩

end Group

/-- A call that asks for access. -/
inductive AccessCall where
  | hasRole (role : Option String)
  | hasAuthority (authority : Option String)
  | hasAnyAuthority (authorities : List (Option String))
  | hasIpAddress (expression : String)
  | access (expression : Option String)
  | plain (r : Requirement)
deriving DecidableEq

/-- The requirement that a call asks for. -/
def AccessCall.requirement (settings : Settings) :
    AccessCall → Except Fault Requirement
  | hasRole role => Shorthand.hasRole role settings.rolePrefix
  | hasAuthority authority => Shorthand.hasAuthority authority
  | hasAnyAuthority authorities =>
    Shorthand.hasAnyAuthority authorities settings.rejectEmptyAnyAuthority
  | hasIpAddress expression => Shorthand.hasIpAddress expression
  | access expression => .ok (Shorthand.access expression)
  | plain r => .ok r

/-- The state of building rules. -/
structure Builder where
  settings : Settings
  registry : Registry
  handler : Handler

namespace Builder

/-- The builder before the first rule. -/
def make (settings : Settings) : Builder :=
  ⟨settings, .empty, .make settings []⟩

/-- Registers one rule for a group. -/
def call (b : Builder) (g : Group) (c : AccessCall) :
    Except Fault (Rule × Builder) := do
  let r ← c.requirement b.settings
  let (rule, registry) ←
    b.registry.register (.many g.patterns) (.many [.requirement r])
  .ok (rule, { b with registry })

/-- Replaces the handler. -/
def withHandler (b : Builder) (handler : Handler) : Builder :=
  { b with handler }

/-- The voters of the builder. -/
def voters (b : Builder) : List Voter := [.expression b.handler]

/-- The manager of the builder's voters. -/
def manager (b : Builder) : Manager := ⟨b.voters, b.settings.allowIfAllAbstain⟩

/-- The source for the rules, and the builder whose registry was compiled for
it. -/
def createSource (b : Builder) :
    Logged (Except Fault (Option Source) × Builder) :=
  b.registry.tryCompile.andThen fun (compiled, registry) =>
    match compiled with
    | .error f => .quiet (.error f, { b with registry })
    | .ok table =>
      let built := Source.build table b.handler
      ⟨(built.value, { b with registry }), built.records⟩

end Builder

end AccessRules
