import AccessRules.Rule.Table

/-!
# The registry of rules

Rules are registered in order.  Compiling the registry gives its lookup table:
every pattern of every rule, in the order of registration, with the attributes
of its rule.  After that no rule can be registered, and compiling again gives
the same table.

A registry cannot be compiled if a pattern was registered again and this cannot
be reported.
-/

namespace AccessRules

/-- The rules registered so far, and their table once it is compiled. -/
structure Registry where
  rules : List Rule
  table : Option LookupTable
deriving DecidableEq

namespace Registry

/-- The registry without rules. -/
def empty : Registry := ⟨[], none⟩

/-- Whether the registry was compiled. -/
def isFrozen (r : Registry) : Bool := r.table.isSome

/-- The number of rules. -/
def size (r : Registry) : Nat := r.rules.length

/-- Refuses a single thing in the place of a collection, whatever the collection
is. -/
def checkBare (patterns : Batch Matcher) (attributes : Batch Attribute) :
    Except Fault Unit :=
  match patternsOf patterns, attributesOf attributes with
  | .error (.barePatterns s), _ => .error (.barePatterns s)
  | _, .error (.bareAttributes s) => .error (.bareAttributes s)
  | _, _ => .ok ()

/-- The rule that would be registered. -/
def ruleOf (patterns : Batch Matcher) (attributes : Batch Attribute) :
    Except Fault Rule := do
  checkBare patterns attributes
  let ms ← patternsOf patterns
  let as ← attributesOf attributes
  let as ← as.mapM Attribute.normal
  Rule.make ms as

/-- Registers a rule.  A compiled registry takes none. -/
def register (r : Registry) (patterns : Batch Matcher)
    (attributes : Batch Attribute) :
    Except Fault (Rule × Registry) :=
  if r.isFrozen then .error (.frozenRegistry r.size)
  else (ruleOf patterns attributes).map fun rule =>
    (rule, { r with rules := r.rules ++ [rule] })

/-- The entries that the table is made from: rule by rule and pattern by
pattern. -/
def flatEntries (r : Registry) : List (Matcher × List Attribute) :=
  r.rules.flatMap fun rule => rule.patterns.map fun m => (m, rule.attributes)

/-- The report of a compilation. -/
def compilation (rules entries : Nat) : Record :=
  ⟨.info, .registry, "Compiled " ++ toString rules ++ " access rule(s) into " ++
    toString entries ++ " lookup entries"⟩

/-- The table of a registry that can be compiled, and the registry that keeps
it. -/
def compile (r : Registry) : Logged (LookupTable × Registry) :=
  match r.table with
  | some t => .quiet (t, r)
  | none =>
    let built := LookupTable.ofEntries r.flatEntries
    ⟨(built.value, { r with table := some built.value }),
      built.records ++ [compilation r.size built.value.size]⟩

/-- The reports of a compilation that is broken off. -/
def brokenOff? (r : Registry) : Option (List Record) :=
  if r.isFrozen then none else LookupTable.empty.brokenOff? r.flatEntries

/-- Compiles a registry.  Where this fails the registry stays as it was. -/
def tryCompile (r : Registry) : Logged (Except Fault LookupTable × Registry) :=
  match r.brokenOff? with
  | some records => ⟨(.error .missingText, r), records⟩
  | none =>
    let compiled := r.compile
    ⟨(.ok compiled.value.1, compiled.value.2), compiled.records⟩

end Registry

end AccessRules
