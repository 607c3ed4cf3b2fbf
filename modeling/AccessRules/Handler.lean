import AccessRules.Attribute
import AccessRules.Expression.Evaluation
import AccessRules.Security
import AccessRules.Settings

/-!
# Expression handlers

A handler evaluates requirements against a context.  Most requirements are
checked directly; a raw expression is compiled and evaluated with the built-in
functions and names, and with the functions that were added to the handler.  An
added function takes the place of a built-in one with the same name.

A raw expression is validated when rules are set up, so that later on it fails
only for reasons that lie in the request.
-/

namespace AccessRules

open Expression (CallFailure Environment Function Tree)

/-- A function that looks at the context of an evaluation. -/
abbrev ExtraFunction := Context → Function

/-- An expression handler: the text in front of roles, and the added
functions. -/
structure Handler where
  rolePrefix : String
  extra : List (String × ExtraFunction)

namespace Handler

/-- The names of the built-in functions. -/
def builtinNames : List String :=
  ["hasRole", "hasAnyRole", "hasAuthority", "hasAnyAuthority", "hasIpAddress",
    "isAnonymous", "isAuthenticated", "isFullyAuthenticated", "isRememberMe"]

/-- The names that stand for values. -/
def variableNames : List String :=
  ["permitAll", "denyAll", "anonymous", "authenticated", "fullyAuthenticated",
    "rememberMe", "principal", "true", "false"]

/-- The built-in functions that take texts only, in ascending order. -/
def textFunctions : List String :=
  ["hasAnyAuthority", "hasAnyRole", "hasAuthority", "hasIpAddress", "hasRole"]

/-- The handler for given settings. -/
def make (settings : Settings) (extra : List (String × ExtraFunction)) :
    Handler :=
  ⟨settings.rolePrefix, extra⟩

/-- The names of all functions, in ascending order. -/
def functionNames (h : Handler) : List String :=
  Text.sortTexts (builtinNames ++ h.extra.map (·.1))

/-- Whether an added function has a name. -/
def overrides (h : Handler) (function : String) : Bool :=
  (h.extra.lookup function).isSome

/-! ## Built-in functions -/

/-- What is said about a number with too many digits. -/
def oversizedMessage : String :=
  "Exceeds the limit (4300 digits) for integer string conversion; " ++
    "use sys.set_int_max_str_digits() to increase the limit"

/-- The authority of a role, which may be given with the text in front of it or
without. -/
def roleAuthority (h : Handler) : Literal → Except CallFailure String
  | .text r =>
    .ok (if h.rolePrefix.toList.isPrefixOf r.toList then r
      else h.rolePrefix ++ r)
  | v =>
    if v.isShowable then .error (.fault (.roleNotText v))
    else .error (.other "ValueError" oversizedMessage)

/-- Whether an authority is granted.  What is no text is no authority. -/
def grants (s : Security) : Literal → Bool
  | .text a => s.hasAuthority a
  | _ => false

/-- Whether the context grants one of several roles. -/
def grantsAnyRole (h : Handler) (s : Security) :
    List Literal → Except CallFailure Bool
  | [] => .ok false
  | v :: vs => do
    let a ← h.roleAuthority v
    if s.hasAuthority a then .ok true else grantsAnyRole h s vs

/-- The subnet that an argument describes. -/
def subnetOf : Literal → Except CallFailure Network.Subnet
  | .text e => (Network.subnetOf e).mapError .fault
  | .bytes b => (Network.subnetOfBytes b).mapError .fault
  | v =>
    if v.isEmpty then .error (.fault .emptyAddress)
    else .error
      (.other "AttributeError"
        ("'" ++ v.kindName ++ "' object has no attribute 'strip'"))

/-- Whether the client of a request is in a subnet.  The request must have a
client address. -/
def clientIn (c : Context) (s : Network.Subnet) : Except Fault Bool :=
  match c.request.remoteAddress with
  | some client => .ok (s.admits client)
  | none => .error (.noClientAddress c.request.path)

/-- How a function with a fixed number of arguments, at most one, is called. -/
structure Signature where
  /-- The name of the function in messages. -/
  shown : String
  /-- The number of arguments that every call begins with. -/
  bound : Nat
  parameter : Option String

/-- What is said about a call with another number of arguments. -/
def Signature.complaint (s : Signature) (given : Nat) : String :=
  match s.parameter, given with
  | some p, 0 =>
    s.shown ++ "() missing 1 required positional argument: '" ++ p ++ "'"
  | parameter, given =>
    let taken := s.bound + parameter.toList.length
    let passed := s.bound + given
    s.shown ++ "() takes " ++ toString taken ++
      (if taken = 1 then " positional argument but "
        else " positional arguments but ") ++
      toString passed ++ (if passed = 1 then " was given" else " were given")

/-- How the built-in functions with a fixed number of arguments are called. -/
def signatureOf (name : String) : Signature :=
  let unnamed := "DefaultExpressionHandler._functions_for.<locals>.<lambda>"
  match name with
  | "hasRole" => ⟨unnamed, 0, some "role"⟩
  | "hasAuthority" => ⟨"SecurityContext.has_authority", 1, some "authority"⟩
  | "hasIpAddress" => ⟨unnamed, 0, some "expression"⟩
  | _ => ⟨unnamed, 0, none⟩

/-- A built-in function without arguments. -/
def constantly (name : String) (b : Bool) : Function
  | [] => .ok (.truth b)
  | args => .error (.badArguments ((signatureOf name).complaint args.length))

/-- A built-in function of one argument. -/
def unary (name : String) (f : Literal → Except CallFailure Bool) : Function
  | [v] => (f v).map .truth
  | args => .error (.badArguments ((signatureOf name).complaint args.length))

/-- The built-in functions. -/
def builtin? (h : Handler) (c : Context) (name : String) : Option Function :=
  let s := c.security
  match name with
  | "hasRole" =>
    some (unary name fun v => (h.roleAuthority v).map s.hasAuthority)
  | "hasAnyRole" => some fun vs => (h.grantsAnyRole s vs).map .truth
  | "hasAuthority" => some (unary name fun v => .ok (grants s v))
  | "hasAnyAuthority" => some fun vs => .ok (.truth (vs.any (grants s)))
  | "hasIpAddress" => some (unary name fun v => do
      let subnet ← subnetOf v
      (clientIn c subnet).mapError .fault)
  | "isAnonymous" => some (constantly name s.anonymous)
  | "isAuthenticated" => some (constantly name s.isAuthenticated)
  | "isFullyAuthenticated" => some (constantly name s.isFullyAuthenticated)
  | "isRememberMe" => some (constantly name s.rememberMe)
  | _ => none

/-- The values of names. -/
def valueOf? (s : Security) (name : String) : Option Literal :=
  match name with
  | "permitAll" => some (.truth true)
  | "denyAll" => some (.truth false)
  | "anonymous" => some (.truth s.anonymous)
  | "authenticated" => some (.truth s.isAuthenticated)
  | "fullyAuthenticated" => some (.truth s.isFullyAuthenticated)
  | "rememberMe" => some (.truth s.rememberMe)
  | "principal" =>
    some (match s.principal with | some p => .text p | none => .nothing)
  | "true" => some (.truth true)
  | "false" => some (.truth false)
  | _ => none

/-- What the names of an expression mean in a context. -/
def environment (h : Handler) (c : Context) : Environment where
  functions name :=
    match h.extra.lookup name with
    | some f => some (f c)
    | none => h.builtin? c name
  values name := valueOf? c.security name

/-! ## Evaluation -/

/-- Evaluates the text of a raw expression. -/
def evaluateText (h : Handler) (c : Context) (text : Option String) :
    Except Fault Bool := do
  let t ← Expression.compile text
  t.evaluate (h.environment c) (text.getD "")

/-- Whether a requirement holds in a context. -/
def evaluate (h : Handler) (c : Context) (r : Requirement) :
    Except Fault Bool :=
  match r with
  | .role r p => .ok (c.security.hasAuthority (p ++ r))
  | .authority a => .ok (c.security.hasAuthority a)
  | .anyAuthority as => .ok (as.any c.security.hasAuthority)
  | .ipAddress m => clientIn c m.subnet
  | .raw text => h.evaluateText c text
  | .permitAll => .ok true
  | .denyAll => .ok false
  | .anonymous => .ok c.security.anonymous
  | .authenticated => .ok c.security.isAuthenticated
  | .fullyAuthenticated => .ok c.security.isFullyAuthenticated
  | .rememberMe => .ok c.security.rememberMe
  | .custom kindName _ shown => .error (.noRuleFor shown kindName)

/-- Whether an attribute holds in a context.  Only requirements have a rule for
that. -/
def evaluateAttribute (h : Handler) (c : Context) (a : Attribute) :
    Except Fault Bool :=
  match a with
  | .requirement r => h.evaluate c r
  | a => .error (.noRuleFor a.shown a.kindName)

/-! ## Validation -/

/-- Refuses names that are not known. -/
def checkNames (known names : List String) (fault : List String → Fault) :
    Except Fault Unit :=
  match names.filter (!known.contains ·) with
  | [] => .ok ()
  | unknown => .error (fault unknown)

/-- The argument that is no text. -/
def nonText? (args : List Literal) : Option Literal :=
  args.find? fun
    | .text _ => false
    | _ => true

/-- Refuses arguments other than texts for one function. -/
def checkTexts (t : Tree) (text function : String) : Except Fault Unit :=
  match (t.callArguments function).findSome? nonText? with
  | none => .ok ()
  | some v =>
    if v.isShowable then .error (.argumentNotText function v text)
    else .error .oversizedNumber

/-- Refuses texts that describe no subnet. -/
def checkSubnets : List Literal → Except Fault Unit
  | [] => .ok ()
  | .text e :: vs => do
    let _ ← Network.subnetOf e
    checkSubnets vs
  | _ :: vs => checkSubnets vs

/-- Checks the names and the arguments of a raw expression. -/
def checkTree (h : Handler) (t : Tree) (text : String) : Except Fault Unit := do
  checkNames h.functionNames t.functionNames (.unknownFunctions · text)
  checkNames variableNames t.variableNames (.unknownNames · text)
  (textFunctions.filter (!h.overrides ·)).forM (checkTexts t text)
  if h.overrides "hasIpAddress" then .ok ()
  else checkSubnets (t.callArguments "hasIpAddress").flatten

/-- Checks a raw expression; other attributes are never refused. -/
def validate (h : Handler) (a : Attribute) : Except Fault Unit :=
  match a with
  | .requirement (.raw text) => do
    let t ← Expression.compile text
    h.checkTree t (text.getD "")
  | _ => .ok ()

end Handler

end AccessRules
