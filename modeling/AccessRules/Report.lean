import AccessRules.Value

/-!
# Error reports

Every failure that users of the library see is a report: a kind with a stable
code, a message, details, and a suggestion what to do.  The kinds form a tree
below the general failure: errors of configuration, errors of evaluation, and
denials of access.

A kind gives the texts that a report has when nothing else is said.
-/

namespace AccessRules

/-- The kinds of reported errors. -/
inductive Kind where
  | failure
  | configuration
  | evaluation
  | denial
  | invalidArgument
  | illegalState
  | invalidExpression
  | missingCapability
  | unknownFunction
  | accessDenied
deriving DecidableEq, Repr

namespace Kind

/-- The public name of a kind. -/
def name : Kind → String
  | failure => "UrlAuthzError"
  | configuration => "ConfigurationError"
  | evaluation => "EvaluationError"
  | denial => "AccessDeniedError"
  | invalidArgument => "InvalidArgument"
  | illegalState => "IllegalState"
  | invalidExpression => "InvalidExpression"
  | missingCapability => "MissingCapability"
  | unknownFunction => "UnknownFunction"
  | accessDenied => "AccessDenied"

/-- All kinds. -/
def all : List Kind :=
  [failure, configuration, evaluation, denial, invalidArgument, illegalState,
    invalidExpression, missingCapability, unknownFunction, accessDenied]

/-- The kind with a public name. -/
def ofName? (s : String) : Option Kind :=
  all.find? (·.name == s)

/-- A kind and all kinds that it belongs to, the most special one first. -/
def lineage : Kind → List Kind
  | failure => [failure]
  | configuration => [configuration, failure]
  | evaluation => [evaluation, failure]
  | denial => [denial, failure]
  | invalidArgument => [invalidArgument, configuration, failure]
  | illegalState => [illegalState, configuration, failure]
  | invalidExpression => [invalidExpression, configuration, failure]
  | missingCapability => [missingCapability, evaluation, failure]
  | unknownFunction => [unknownFunction, evaluation, failure]
  | accessDenied => [accessDenied, denial, failure]

/-- Whether errors of a kind are errors of evaluation. -/
def isEvaluation (k : Kind) : Bool :=
  k.lineage.contains evaluation

/-- The stable code of a kind. -/
def code : Kind → String
  | failure => "AZ-000"
  | configuration => "AZ-C1XX"
  | evaluation => "AZ-E2XX"
  | denial => "AZ-D3XX"
  | invalidArgument => "AZ-C100"
  | illegalState => "AZ-C101"
  | invalidExpression => "AZ-C102"
  | missingCapability => "AZ-E200"
  | unknownFunction => "AZ-E201"
  | accessDenied => "AZ-D300"

/-- The HTTP status that suits an error of the kind. -/
def status : Kind → Nat
  | denial => 403
  | accessDenied => 403
  | _ => 500

/-- The message of a report that gives none. -/
def defaultMessage : Kind → String
  | invalidArgument =>
    "Invalid argument supplied to the authorization configuration"
  | illegalState => "Operation not permitted in the current configuration state"
  | invalidExpression => "Access expression is malformed"
  | missingCapability =>
    "Security context does not provide the required capability"
  | unknownFunction => "Access expression references an unknown function"
  | accessDenied => "Access is denied"
  | _ => "Unknown authorization error"

/-- The suggestion of a report that gives none. -/
def defaultResolution : Kind → String
  | invalidArgument => "Fix the offending rule definition and restart."
  | illegalState => "Register every rule before the registry is compiled."
  | invalidExpression =>
    "Use only the supported functions combined with and/or/not."
  | missingCapability =>
    "Ensure the request and security context carry the data " ++
      "the access requirement references."
  | unknownFunction => "Register the function with the expression handler."
  | accessDenied =>
    "Authenticate with a principal holding the required authorities."
  | _ => ""

end Kind

/-- A failure as users of the library see it. -/
structure Report where
  kind : Kind
  message : String
  details : List (String × Value)
  resolution : String
deriving DecidableEq

namespace Report

/-- A report with the texts of its kind where none are given. -/
def make (kind : Kind) (message : Option String)
    (details : List (String × Value)) (resolution : Option String) : Report :=
  ⟨kind, message.getD kind.defaultMessage, details,
    resolution.getD kind.defaultResolution⟩

/-- A report as nested data.  Empty details and an empty suggestion are left
out. -/
def envelope (r : Report) : Value :=
  let detail :=
    if r.details = [] then [] else [("detail", Value.dict r.details)]
  let resolution :=
    if r.resolution = "" then [] else [("resolution", Value.text r.resolution)]
  .dict [("error", .dict
    ([("code", .text r.kind.code), ("message", .text r.message)] ++ detail ++
      resolution))]

/-- The form of a report in messages. -/
def shown (r : Report) : String :=
  r.kind.name ++ "(code=" ++ Text.quoted r.kind.code ++ ", message=" ++
    Text.quoted r.message ++ ")"

end Report

end AccessRules
