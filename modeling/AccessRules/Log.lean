/-!
# Log records

What the parts of the library report about their work.  Records are part of the
answer of an operation; nothing is written by the library itself.
-/

namespace AccessRules

/-- How important a record is. -/
inductive Level where
  | debug
  | info
  | warning
deriving DecidableEq, Repr

/-- The rank of a level among the levels. -/
def Level.rank : Level → Nat
  | debug => 0
  | info => 1
  | warning => 2

/-- The parts of the library that report something. -/
inductive Component where
  | registry
  | metadata
  | voter
  | decision
deriving DecidableEq, Repr

/-- One report. -/
structure Record where
  level : Level
  component : Component
  message : String
deriving DecidableEq, Repr

/-- A result with the records made on the way to it. -/
structure Logged (α : Type) where
  value : α
  records : List Record

namespace Logged

/-- A result without records. -/
def quiet (a : α) : Logged α := ⟨a, []⟩

/-- Goes on with a result; its records come first. -/
def andThen (x : Logged α) (f : α → Logged β) : Logged β :=
  let y := f x.value
  ⟨y.value, x.records ++ y.records⟩

/-- The records of at least a level. -/
def recordsFrom (x : Logged α) (least : Level) : List Record :=
  x.records.filter fun r => least.rank ≤ r.level.rank

end Logged

end AccessRules
