import AccessRules.Log
import AccessRules.Rule.Basic

/-!
# Lookup tables

A table has one entry for each pattern, with the attributes that guard the
requests it selects.  A pattern that is put into the table again keeps its place
and gets the new attributes, and this is reported.  The report shows the texts
of the attributes, so it cannot be written for an attribute without a text.
-/

namespace AccessRules

/-- The attributes by pattern, in the order in which the patterns came. -/
structure LookupTable where
  entries : List (Matcher × List Attribute)
deriving DecidableEq

namespace LookupTable

/-- The table without entries. -/
def empty : LookupTable := ⟨[]⟩

/-- The patterns of a table. -/
def keys (t : LookupTable) : List Matcher := t.entries.map (·.1)

/-- The number of entries. -/
def size (t : LookupTable) : Nat := t.entries.length

/-- The attributes under a pattern. -/
def get? (t : LookupTable) (m : Matcher) : Option (List Attribute) :=
  t.entries.lookup m

/-- The attributes under a pattern, which must be in the table. -/
def get (t : LookupTable) (m : Matcher) : Except Fault (List Attribute) :=
  match t.get? m with
  | some as => .ok as
  | none => .error .unknownPattern

/-- Whether a pattern is in the table. -/
def contains (t : LookupTable) (m : Matcher) : Bool := (t.get? m).isSome

/-- The entries with new attributes for one pattern. -/
def replaced (m : Matcher) (attributes : List Attribute) :
    List (Matcher × List Attribute) → List (Matcher × List Attribute)
  | [] => [(m, attributes)]
  | (n, as) :: rest =>
    if n = m then (n, attributes) :: rest
    else (n, as) :: replaced m attributes rest

/-- Puts attributes under a pattern. -/
def put (t : LookupTable) (m : Matcher) (attributes : List Attribute) :
    LookupTable :=
  ⟨replaced m attributes t.entries⟩

/-- The report that new attributes take the place of others. -/
def replacement (m : Matcher) (old new : List Attribute) : Record :=
  ⟨.debug, .registry, "Pattern " ++ m.text ++ " registered again; replacing " ++
    Attribute.shownTextsOf old ++ " with " ++ Attribute.shownTextsOf new⟩

/-- The reports of putting attributes under a pattern. -/
def putRecords (t : LookupTable) (m : Matcher) (attributes : List Attribute) :
    List Record :=
  match t.get? m with
  | some old => [replacement m old attributes]
  | none => []

/-- Puts attributes under patterns, one after the other. -/
def putAll (t : LookupTable) :
    List (Matcher × List Attribute) → Logged LookupTable
  | [] => .quiet t
  | (m, as) :: rest =>
    let more := putAll (t.put m as) rest
    ⟨more.value, t.putRecords m as ++ more.records⟩

/-- The table of the given entries. -/
def ofEntries (entries : List (Matcher × List Attribute)) :
    Logged LookupTable :=
  empty.putAll entries

/-- Whether putting attributes under a pattern can be reported: the attributes
that it takes away and brings all have texts. -/
def isReportable (t : LookupTable) (m : Matcher) (attributes : List Attribute) :
    Bool :=
  match t.get? m with
  | some old => (old ++ attributes).all (·.hasText)
  | none => true

/-- The reports before the first one that cannot be written, if there is one. -/
def brokenOff? (t : LookupTable) :
    List (Matcher × List Attribute) → Option (List Record)
  | [] => none
  | (m, as) :: rest =>
    if t.isReportable m as then
      ((t.put m as).brokenOff? rest).map (t.putRecords m as ++ ·)
    else some []

/-- The form of a table in messages. -/
def shown (t : LookupTable) : String :=
  "LookupTable(" ++ toString t.size ++ " entries)"

end LookupTable

end AccessRules
