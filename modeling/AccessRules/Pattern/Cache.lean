import AccessRules.Matcher

/-!
# The cache of patterns

Patterns are turned into regular expressions once and kept.  A cache holds a
limited number of results and gives up the one that was not asked for longest.
A request that fails counts as a miss, and nothing is kept for it.
-/

namespace AccessRules.Pattern

/-- A cache with the entries in the order of their last use, the latest
first. -/
structure Cache (κ ν : Type) where
  entries : List (κ × ν)
  hits : Nat
  misses : Nat
deriving DecidableEq

namespace Cache

/-- How many entries a cache holds at most. -/
def capacity : Nat := 512

/-- The cache before the first request. -/
def empty : Cache κ ν := ⟨[], 0, 0⟩

variable [DecidableEq κ]

/-- Asks for the value of a key, which is built unless it is kept. -/
def request (c : Cache κ ν) (key : κ) (build : κ → Except ε ν) :
    Except ε ν × Cache κ ν :=
  match c.entries.lookup key with
  | some v =>
    (.ok v, ⟨(key, v) :: c.entries.filter (·.1 ≠ key), c.hits + 1, c.misses⟩)
  | none =>
    match build key with
    | .ok v =>
      (.ok v, ⟨((key, v) :: c.entries).take capacity, c.hits, c.misses + 1⟩)
    | .error e => (.error e, ⟨c.entries, c.hits, c.misses + 1⟩)

end Cache

/-- The caches for path patterns and for regular expressions, each with its
letter-case option. -/
structure Caches where
  ant : Cache (String × Bool) Regex.Node
  regex : Cache (String × Bool) Regex.Node
deriving DecidableEq

namespace Caches

/-- The caches before the first request. -/
def empty : Caches := ⟨.empty, .empty⟩

/-- Asks for the regular expression of a path pattern. -/
def antNode (c : Caches) (pattern : String) (caseSensitive : Bool) :
    Except Fault Regex.Node × Caches :=
  let (node, ant) := c.ant.request (pattern, caseSensitive) fun (p, b) =>
    .ok (Pattern.node b p)
  (node, { c with ant })

/-- Asks for a regular expression. -/
def regexNode (c : Caches) (pattern : String) (caseInsensitive : Bool) :
    Except Fault Regex.Node × Caches :=
  let (node, regex) := c.regex.request (pattern, caseInsensitive) fun (p, b) =>
    Regex.ofPattern p b
  (node, { c with regex })

/-- The matcher for a regular expression, by way of the cache. -/
def makeRegex (c : Caches) (pattern : String) (method : Option String)
    (caseInsensitive : Bool) :
    Except Fault RegexMatcher × Caches :=
  let (node, c) := c.regexNode pattern caseInsensitive
  (node.map fun _ => ⟨pattern, normalMethod method, caseInsensitive⟩, c)

/-- Whether the regular expression that a cache has answered with selects a
path. -/
def selectsPath (answer : Except Fault Regex.Node × Caches) (path : String) :
    Bool × Caches :=
  match answer with
  | (.ok node, c) => (node.matchesAll path.toList, c)
  | (.error _, c) => (false, c)

/-- Whether a matcher selects a request, by way of the caches. -/
def selects (c : Caches) (r : Request) : Matcher → Bool × Caches
  | .ant m =>
    if !admitsMethod m.method r then (false, c)
    else if selectsAll m.pattern then (true, c)
    else selectsPath (c.antNode m.pattern m.caseSensitive) r.path
  | .regex m =>
    if !admitsMethod m.method r then (false, c)
    else selectsPath (c.regexNode m.pattern m.caseInsensitive) r.path
  | m => (m.selects r, c)

end Caches

end AccessRules.Pattern
