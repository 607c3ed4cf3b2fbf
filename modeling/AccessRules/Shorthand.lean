import AccessRules.Attribute
import AccessRules.Settings

/-!
# Requirements by name

One function for each way to ask for access.  A function checks its arguments,
so that a requirement without meaning never becomes part of a rule; nothing is
evaluated here.
-/

namespace AccessRules.Shorthand

/-- Asks for a role, given without the text in front of it. -/
def hasRole (role : Option String) (rolePrefix : String) :
    Except Fault Requirement :=
  match role with
  | none => .error (.emptyRole none)
  | some r =>
    if r = "" then .error (.emptyRole (some r))
    else if rolePrefix.toList.isPrefixOf r.toList then
      .error (.prefixedRole r rolePrefix)
    else .ok (.role r rolePrefix)

/-- Asks for an authority. -/
def hasAuthority (authority : Option String) : Except Fault Requirement :=
  match authority with
  | none => .error (.emptyAuthority none)
  | some a =>
    if a = "" then .error (.emptyAuthority (some a)) else .ok (.authority a)

/-- Asks for one of several authorities.  No authorities at all are refused on
demand only. -/
def hasAnyAuthority (authorities : List (Option String)) (rejectEmpty : Bool) :
    Except Fault Requirement :=
  if authorities.isEmpty && rejectEmpty then .error .noAuthorities
  else if authorities.any (fun a => a.getD "" == "") then
    .error (.emptyAmongAuthorities authorities)
  else .ok (.anyAuthority (authorities.filterMap id))

/-- Asks for a client in a subnet. -/
def hasIpAddress (expression : String) : Except Fault Requirement :=
  (NetworkMatcher.make expression).map .ipAddress

/-- Asks for what an expression says, which is not looked at here. -/
def access (expression : Option String) : Requirement := .raw expression

/-- The requirements without arguments, by name. -/
def plain? (name : String) : Option Requirement :=
  [("permit_all", Requirement.permitAll), ("deny_all", .denyAll),
    ("anonymous", .anonymous), ("authenticated", .authenticated),
    ("fully_authenticated", .fullyAuthenticated),
      ("remember_me", .rememberMe)].lookup name

end AccessRules.Shorthand
