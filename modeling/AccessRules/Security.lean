import AccessRules.Field
import AccessRules.Request

/-!
# Security contexts

Who sends a request: a principal, if there is one, and the authorities granted
to it.  A context is anonymous, or authenticated if it has a principal; and it
is fully authenticated if it is authenticated without being remembered from an
earlier session.
-/

namespace AccessRules

/-- The security context of a request. -/
structure Security where
  principal : Option String
  authorities : List String
  anonymous : Bool
  rememberMe : Bool
deriving DecidableEq, Repr

namespace Security

/-- The principal of the anonymous context. -/
def anonymousPrincipal : String := "anonymousUser"

/-- The authority of the anonymous context. -/
def anonymousAuthority : String := "ROLE_ANONYMOUS"

/-- The context with the given fields. -/
def ofValue (v : Value) : Except (List FieldError) Security :=
  let principal :=
    Field.withDefault none (Field.optionalText "principal")
      (v.field? "principal")
  let authorities :=
    Field.withDefault [] (Field.textSet "authorities") (v.field? "authorities")
  let anonymous :=
    Field.withDefault false (Field.lenientTruth "anonymous")
      (v.field? "anonymous")
  let rememberMe :=
    Field.withDefault false (Field.lenientTruth "remember_me")
      (v.field? "remember_me")
  Field.apply
    (Field.apply (Field.apply (principal.map Security.mk) authorities)
      anonymous) rememberMe

/-- The context of a request without authentication, under a principal of its
own. -/
def anonymousUser (principal : Value) : Except (List FieldError) Security :=
  (Field.optionalText "principal" principal).map fun p =>
    ⟨p, [anonymousAuthority], true, false⟩

/-- Whether the context has a principal that is not anonymous. -/
def isAuthenticated (s : Security) : Bool :=
  !s.anonymous && s.principal.isSome

/-- Whether the principal authenticated in this session. -/
def isFullyAuthenticated (s : Security) : Bool :=
  s.isAuthenticated && !s.rememberMe

/-- Whether an authority is granted. -/
def hasAuthority (s : Security) (authority : String) : Bool :=
  s.authorities.contains authority

end Security

/-- What an evaluation may look at. -/
structure Context where
  security : Security
  request : Request
deriving DecidableEq, Repr

end AccessRules
