import AccessRules.Field

/-!
# Settings

The settings of an authorization set-up: the text in front of roles, whether a
requirement for any of no authorities is an error, what happens if no voter has
an opinion, and whether path patterns tell upper and lower case apart.
-/

namespace AccessRules

/-- The settings of an authorization set-up. -/
structure Settings where
  rolePrefix : String
  rejectEmptyAnyAuthority : Bool
  allowIfAllAbstain : Bool
  caseSensitivePaths : Bool
deriving DecidableEq, Repr

namespace Settings

/-- The text in front of roles unless another one is set. -/
def defaultRolePrefix : String := "ROLE_"

/-- The settings where none are given. -/
def standard : Settings := ⟨defaultRolePrefix, false, false, true⟩

/-- The settings with the given fields, all of which must have their exact
types. -/
def ofValue (v : Value) : Except (List FieldError) Settings :=
  let truth (default : Bool) (field : String) :=
    Field.withDefault default (Field.strictTruth field) (v.field? field)
  let rolePrefix :=
    Field.withDefault defaultRolePrefix (Field.nonemptyText "role_prefix")
      (v.field? "role_prefix")
  Field.apply
    (Field.apply
      (Field.apply (rolePrefix.map Settings.mk)
        (truth false "reject_empty_any_authority"))
      (truth false "allow_if_all_abstain"))
    (truth true "case_sensitive_paths")

end Settings

end AccessRules
