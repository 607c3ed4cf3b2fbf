import AccessRules.Handler
import AccessRules.Rule.Registry

/-!
# Finding the attributes of a request

A source looks requests up in a table: the first pattern that selects a request
gives the attributes that guard it.  A request that no pattern selects is not
guarded at all.

A source is built only for a table with entries, and after the raw expressions
in it were validated.
-/

namespace AccessRules

/-- The entries of a table and the handler that evaluates their attributes. -/
structure Source where
  entries : List (Matcher × List Attribute)
  handler : Handler

namespace Source

/-- Validates attributes, one after the other. -/
def validateAll (h : Handler) (attributes : List Attribute) :
    Except Fault Unit :=
  attributes.forM h.validate

/-- The report that there is nothing to guard. -/
def absence : Record :=
  ⟨.info, .metadata,
    "No access rules registered; authorization stage not installed"⟩

/-- The report that a source was built. -/
def completion (patterns : Nat) : Record :=
  ⟨.info, .metadata, "Metadata source built with " ++ toString patterns ++
    " request pattern(s)"⟩

/-- The source for a table; none for a table without entries. -/
def build (t : LookupTable) (h : Handler) :
    Logged (Except Fault (Option Source)) :=
  if t.entries = [] then ⟨.ok none, [absence]⟩
  else
    match validateAll h (t.entries.flatMap (·.2)) with
    | .ok () => ⟨.ok (some ⟨t.entries, h⟩), [completion t.size]⟩
    | .error f => .quiet (.error f)

/-- The number of patterns. -/
def size (s : Source) : Nat := s.entries.length

/-- The distinct attributes, in the order of their first occurrences. -/
def allAttributes (s : Source) : List Attribute :=
  (s.entries.flatMap (·.2)).foldl
    (fun seen a => if seen.contains a then seen else seen ++ [a]) []

/-- The entry that governs a request. -/
def entryFor? (s : Source) (r : Request) : Option (Matcher × List Attribute) :=
  s.entries.find? fun (m, _) => m.selects r

/-- The report of a lookup. -/
def finding (r : Request) : Option (Matcher × List Attribute) → Record
  | some (m, as) =>
    ⟨.debug, .metadata, r.method ++ " " ++ r.path ++ " matched " ++ m.text ++
      " -> " ++ Attribute.shownTextsOf as⟩
  | none =>
    ⟨.debug, .metadata, r.method ++ " " ++ r.path ++ " matched no access rule"⟩

/-- The attributes that guard a request. -/
def lookup (s : Source) (r : Request) : Logged (Option (List Attribute)) :=
  let entry := s.entryFor? r
  ⟨entry.map (·.2), [finding r entry]⟩

end Source

end AccessRules
