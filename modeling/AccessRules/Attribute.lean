import AccessRules.Matcher

/-!
# Attributes

What a rule asks of a request: requirements, which the library evaluates, and
tokens, which mean something to voters from outside only.

Every requirement has the text of an expression that says the same.  Quotes in
texts are escaped there with a backslash.
-/

namespace AccessRules

/-- A requirement.  A custom one is known only by its kind, its expression and
its form in messages. -/
inductive Requirement where
  | role (role rolePrefix : String)
  | authority (authority : String)
  | anyAuthority (authorities : List String)
  | ipAddress (matcher : NetworkMatcher)
  | raw (text : Option String)
  | permitAll
  | denyAll
  | anonymous
  | authenticated
  | fullyAuthenticated
  | rememberMe
  | custom (kindName expression shown : String)
deriving DecidableEq

/-- An attribute, or any other value that stands in the place of one. -/
inductive Attribute where
  | token (text : String)
  | requirement (r : Requirement)
  | other (v : Value)
deriving DecidableEq

/-- A text with a backslash before every single quote. -/
def escapeQuotes (s : String) : String :=
  String.ofList (s.toList.flatMap fun c => if c = '\'' then ['\\', c] else [c])

/-- A text between single quotes. -/
def inQuotes (s : String) : String := "'" ++ escapeQuotes s ++ "'"

/-- A list of texts in round brackets, in messages; a comma follows a single
text. -/
def shownTexts : List String → String
  | [s] => "(" ++ Text.quoted s ++ ",)"
  | ss => "(" ++ ", ".intercalate (ss.map Text.quoted) ++ ")"

namespace Requirement

/-- The expression that says the same as a requirement. -/
def expression : Requirement → String
  | role r p => "hasRole(" ++ inQuotes (p ++ r) ++ ")"
  | authority a => "hasAuthority(" ++ inQuotes a ++ ")"
  | anyAuthority as =>
    "hasAnyAuthority('" ++ "','".intercalate (as.map escapeQuotes) ++ "')"
  | ipAddress m => "hasIpAddress(" ++ inQuotes m.expression ++ ")"
  | raw text => text.getD ""
  | permitAll => "permitAll"
  | denyAll => "denyAll"
  | anonymous => "anonymous"
  | authenticated => "authenticated"
  | fullyAuthenticated => "fullyAuthenticated"
  | rememberMe => "rememberMe"
  | custom _ e _ => e

/-- The name of the kind of a requirement. -/
def kindName : Requirement → String
  | role .. => "Role"
  | authority _ => "Authority"
  | anyAuthority _ => "AnyAuthority"
  | ipAddress _ => "IpAddress"
  | raw _ => "RawExpression"
  | permitAll => "PermitAll"
  | denyAll => "DenyAll"
  | anonymous => "Anonymous"
  | authenticated => "Authenticated"
  | fullyAuthenticated => "FullyAuthenticated"
  | rememberMe => "RememberMe"
  | custom k _ _ => k

/-- The arguments of a requirement, as messages show them. -/
def shownArguments : Requirement → String
  | role r p => "role=" ++ Text.quoted r ++ ", prefix=" ++ Text.quoted p
  | authority a => "authority=" ++ Text.quoted a
  | anyAuthority as => "authorities=" ++ shownTexts as
  | ipAddress m => "address=" ++ Text.quoted m.expression
  | raw text => "text=" ++ shownOptional text
  | _ => ""

/-- The form of a requirement in messages. -/
def shown : Requirement → String
  | custom _ _ s => s
  | r => r.kindName ++ "(" ++ r.shownArguments ++ ")"

end Requirement

namespace Attribute

/-- Whether this is an attribute at all. -/
def isAttribute : Attribute → Bool
  | other _ => false
  | _ => true

/-- The requirement that an attribute is. -/
def requirement? : Attribute → Option Requirement
  | requirement r => some r
  | _ => none

/-- The text of an attribute. -/
def text : Attribute → String
  | token s => s
  | requirement r => r.expression
  | other (.text s) => s
  | other v => v.shown

/-- Whether an attribute has a text: a raw expression may come without one. -/
def hasText : Attribute → Bool
  | requirement (.raw none) => false
  | _ => true

/-- The name of the kind of an attribute. -/
def kindName : Attribute → String
  | token _ => "SecurityConfig"
  | requirement r => r.kindName
  | other v => v.kindName

/-- The form of an attribute in messages. -/
def shown : Attribute → String
  | token s => "SecurityConfig(value=" ++ Text.quoted s ++ ")"
  | requirement r => r.shown
  | other v => v.shown

/-- The texts of attributes as a list in messages. -/
def shownTextsOf (attributes : List Attribute) : String :=
  Text.listed (attributes.map fun a => Text.quoted a.text)

end Attribute

/-- The general kinds of attributes, which have no text of their own. -/
inductive GeneralKind where
  | general
  | requirement
deriving DecidableEq, Repr

/-- The text of an attribute of which nothing but its general kind is known. -/
def GeneralKind.text : GeneralKind → Except Fault String
  | general | requirement => .error .notImplemented

end AccessRules
