import AccessRules.Expression.Literal
import AccessRules.Report

/-!
# Causes of failure

Each way in which an operation can fail is a cause with its data.  A cause
determines the report that users see.

A few causes have no report: they stand for misuse that the library does not
describe any further, such as asking a table for a pattern that it does not
have.
-/

namespace AccessRules

/-- What can make an operation fail. -/
inductive Fault where
  /-- An error that code supplied by the user has raised. -/
  | raised (report : Report)
  -- arguments of the configuration
  | emptyRole (role : Option String)
  | prefixedRole (role rolePrefix : String)
  | emptyAuthority (authority : Option String)
  | noAuthorities
  | emptyAmongAuthorities (authorities : List (Option String))
  | emptyAddress
  | invalidAddress (expression : String)
  | invalidAddressBytes (expression : List UInt8)
  | emptyAntPattern
  | invalidRegex (pattern : String)
  | unsupportedAttribute (shown : String)
  | noPatterns
  | noAttributes
  | notAMatcher (shown : String)
  | barePatterns (shown : String)
  | bareAttributes (shown : String)
  | emptyGroup (opener member : String)
  | noVoters
  | frozenRegistry (rules : Nat)
  -- texts of expressions
  | emptyExpression
  | unreadableExpression (text : String)
  | unsupportedConstruct (construct text : String)
  | computedCall (text : String)
  | computedArgument (text : String)
  | unknownFunctions (names : List String) (text : String)
  | unknownNames (names : List String) (text : String)
  | argumentNotText (function : String) (argument : Literal) (text : String)
  -- evaluation of expressions
  | resultNotTruth (result : Literal) (text : String)
  | operandNotTruth (operand : Literal)
  | badArguments (function message : String)
  | failedCall (function error message : String)
  | roleNotText (role : Literal)
  | missingName (name : String)
  | noClientAddress (path : String)
  | missingFunction (name : String)
  | unsupportedNode (construct : String)
  | noRuleFor (shown kindName : String)
  -- decisions
  | denied (method path : String) (principal : Option String) (vote : String)
  -- without a report
  | unknownPattern
  | notImplemented
  | notACollection
  | missingText
  | nullCharacter
  | oversizedNumber
  | oversizedRepetition
  | conflictingFlags
deriving DecidableEq

namespace Fault

/-- The report of an unusable argument. -/
def ofArgument (message : String) (details : List (String × Value)) : Report :=
  .make .invalidArgument (some message) details none

/-- The report of an unusable expression text. -/
def ofExpression (message text : String) (more : List (String × Value)) :
    Report :=
  .make .invalidExpression (some message)
    (("expression", .text text) :: more) none

/-- The report of a failed evaluation. -/
def ofEvaluation (message : String) (details : List (String × Value)) :
    Report :=
  .make .evaluation (some message) details none

/-- The report of a fault, if it has one. -/
def report? : Fault → Option Report
  | raised r => some r
  | emptyRole role =>
    some (ofArgument "role cannot be empty" [("role", .ofText? role)])
  | prefixedRole role rolePrefix => some (.make .invalidArgument
      (some ("role should not start with '" ++ rolePrefix ++
        "' since it is automatically inserted. Got '" ++ role ++ "'"))
      [("role", .text role), ("role_prefix", .text rolePrefix)]
      (some ("Pass '" ++ String.ofList (role.toList.drop rolePrefix.length) ++
        "' or use has_authority().")))
  | emptyAuthority authority =>
    some (ofArgument "authority cannot be empty"
      [("authority", .ofText? authority)])
  | noAuthorities =>
    some (ofArgument "has_any_authority() requires at least one authority" [])
  | emptyAmongAuthorities authorities =>
    some (ofArgument "authorities cannot contain empty values"
      [("authorities", .list (authorities.map .ofText?))])
  | emptyAddress => some (ofArgument "IP address expression cannot be empty" [])
  | invalidAddress expression =>
    some (ofArgument
      ("Invalid IP address or subnet: " ++ Text.quoted expression)
      [("expression", .text expression)])
  | invalidAddressBytes expression =>
    some (ofArgument
      ("Invalid IP address or subnet: " ++ Text.quotedBytes expression)
      [("expression", .text (Text.quotedBytes expression))])
  | emptyAntPattern => some (ofArgument "Ant pattern cannot be empty" [])
  | invalidRegex pattern =>
    some (ofArgument ("Invalid regex request pattern " ++ Text.quoted pattern)
      [("pattern", .text pattern)])
  | unsupportedAttribute shown =>
    some (ofArgument ("Unsupported access attribute: " ++ shown)
      [("attribute", .text shown)])
  | noPatterns =>
    some (ofArgument "An access rule needs at least one request pattern" [])
  | noAttributes =>
    some (ofArgument "An access rule needs at least one access attribute" [])
  | notAMatcher shown =>
    some (ofArgument ("Not a request matcher: " ++ shown)
      [("pattern", .text shown)])
  | barePatterns shown =>
    some (ofArgument
      ("patterns must be a collection of request matchers, got " ++ shown)
      [("patterns", .text shown)])
  | bareAttributes shown =>
    some (ofArgument
      ("attributes must be a collection of access attributes, got " ++ shown)
      [("attributes", .text shown)])
  | emptyGroup opener member =>
    some (ofArgument (opener ++ "() requires at least one " ++ member) [])
  | noVoters =>
    some (ofArgument "At least one access decision voter is required" [])
  | frozenRegistry rules => some (.make .illegalState
      (some "Cannot register access rules after the registry was compiled")
      [("registered_rules", .int rules)] none)
  | emptyExpression =>
    some (.make .invalidExpression
      (some "Access expression cannot be empty") [] none)
  | unreadableExpression text =>
    some (ofExpression
      ("Cannot parse access expression " ++ Text.quoted text) text [])
  | unsupportedConstruct construct text =>
    some (ofExpression
      ("Unsupported construct " ++ construct ++ " in " ++ Text.quoted text) text
      [("node", .text construct)])
  | computedCall text =>
    some (ofExpression
      ("Only plain function calls are allowed in " ++ Text.quoted text) text [])
  | computedArgument text =>
    some (ofExpression
      ("Function arguments must be literals in " ++ Text.quoted text) text [])
  | unknownFunctions names text =>
    some (ofExpression
      ("Unknown function(s) " ++ ", ".intercalate names ++ " in " ++
        Text.quoted text) text
      [("unknown", .texts names)])
  | unknownNames names text =>
    some (ofExpression
      ("Unknown name(s) " ++ ", ".intercalate names ++ " in " ++
        Text.quoted text) text
      [("unknown", .texts names)])
  | argumentNotText function argument text =>
    some (ofExpression
      (function ++ "() takes string arguments, got " ++ argument.shown ++
        " in " ++ Text.quoted text) text
      [("function", .text function)])
  | resultNotTruth result text =>
    some (ofEvaluation
      ("Access expression " ++ Text.quoted text ++
        " did not evaluate to a boolean")
      [("expression", .text text), ("result_type", .text result.kindName)])
  | operandNotTruth operand =>
    some (ofEvaluation "Boolean operator applied to a non-boolean operand"
      [("operand_type", .text operand.kindName)])
  | badArguments function message =>
    some (ofEvaluation ("Bad arguments for " ++ function ++ "(): " ++ message)
      [("function", .text function)])
  | failedCall function error message =>
    some (ofEvaluation (function ++ "() failed: " ++ message)
      [("function", .text function), ("error", .text error)])
  | roleNotText role =>
    some (ofEvaluation ("Role must be a string, got " ++ role.shown)
      [("role_type", .text role.kindName)])
  | missingName name => some (.make .missingCapability
      (some ("Name " ++ Text.quoted name ++
        " is not available in the security context"))
      [("name", .text name)] none)
  | noClientAddress path => some (.make .missingCapability
      (some
        "hasIpAddress requires the client address, but the request has none")
      [("path", .text path)] none)
  | missingFunction name => some (.make .unknownFunction
      (some ("Unknown function " ++ Text.quoted name ++
        " in access expression"))
      [("function", .text name)] none)
  | unsupportedNode construct => some
    (.make .invalidExpression (some ("Unsupported node " ++ construct)) [] none)
  | noRuleFor shown kindName => some (.make .unknownFunction
      (some ("No evaluation rule for requirement " ++ shown))
      [("requirement", .text kindName)] none)
  | denied method path principal vote => some (.make .accessDenied none
      [("method", .text method), ("path", .text path),
        ("principal", .ofText? principal), ("vote", .text vote)] none)
  | unknownPattern => none
  | notImplemented => none
  | notACollection => none
  | missingText => none
  | nullCharacter => none
  | oversizedNumber => none
  | oversizedRepetition => none
  | conflictingFlags => none

/-- Whether a fault is an error of evaluation, which a decision turns into a
denial. -/
def isEvaluation (f : Fault) : Bool :=
  match f.report? with
  | some r => r.kind.isEvaluation
  | none => false

/-- The message of a fault; empty for a fault without a report. -/
def message (f : Fault) : String :=
  match f.report? with
  | some r => r.message
  | none => ""

end Fault

end AccessRules
