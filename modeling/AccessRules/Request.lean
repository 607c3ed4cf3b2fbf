import AccessRules.Field
import AccessRules.Text.Upper

/-!
# Requests

The parts of an HTTP request that rules can look at: the method in upper case,
the path without its query, and the address of the client where it is known.  An
empty path stands for the root.
-/

namespace AccessRules

/-- A request. -/
structure Request where
  method : String
  path : String
  remoteAddress : Option String
deriving DecidableEq, Repr

namespace Request

/-- A path without its query; the root if nothing is left. -/
def withoutQuery (path : String) : String :=
  match path.toList.takeWhile (· ≠ '?') with
  | [] => "/"
  | cs => String.ofList cs

/-- The request with a method and a path as they were sent. -/
def make (method path : String) (remoteAddress : Option String) : Request :=
  ⟨Text.upper method, withoutQuery path, remoteAddress⟩

/-- The request with the given fields. -/
def ofValue (v : Value) : Except (List FieldError) Request :=
  let method :=
    Field.withDefault "GET" (Field.text "method") (v.field? "method")
  let path := Field.withDefault "/" (Field.text "path") (v.field? "path")
  let remote :=
    Field.withDefault none (Field.optionalText "remote_address")
      (v.field? "remote_address")
  Field.apply (Field.apply (method.map make) path) remote

end Request

end AccessRules
