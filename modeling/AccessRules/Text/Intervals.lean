/-!
# Sets of code points given by intervals

A set of code points is kept as the ascending list of the points at which
membership changes.  A code point belongs to the set exactly when an odd number
of these points lies at or below it.

Long tables are written compactly, as base-36 numerals separated by blanks, each
the distance from the change before it.
-/

namespace AccessRules.Text

/-- The value of one base-36 digit. -/
def digitValue (c : Char) : Nat :=
  if c.isDigit then c.toNat - 48 else c.toNat - 87

/-- The numbers written in a line of base-36 numerals. -/
def numerals (line : String) : List Nat :=
  let step : List Nat × Option Nat → Char → List Nat × Option Nat :=
    fun (done, current) c =>
    if c = ' ' then
      (match current with | some n => n :: done | none => done, none)
    else
      (done, some (current.getD 0 * 36 + digitValue c))
  let (done, current) := line.toList.foldl step ([], none)
  (match current with | some n => n :: done | none => done).reverse

/-- A set of code points, by the ascending points at which membership
changes. -/
structure Intervals where
  changes : Array Nat

namespace Intervals

/-- The set whose changes lie at the given distances from one another. -/
def ofGaps (lines : List String) : Intervals :=
  let step : Array Nat × Nat → Nat → Array Nat × Nat :=
    fun (changes, last) gap =>
    (changes.push (last + gap), last + gap)
  ⟨((lines.flatMap numerals).foldl step (#[], 0)).1⟩

/-- How many of the changes with index from `lo` to `hi` lie at or below `c`,
plus `lo`. -/
def rank (changes : Array Nat) (c lo hi : Nat) : Nat :=
  if lo < hi then
    let mid := (lo + hi) / 2
    if changes.getD mid 0 ≤ c then rank changes c (mid + 1) hi
    else rank changes c lo mid
  else
    lo
termination_by hi - lo

/-- Membership of a code point. -/
def contains (s : Intervals) (c : Nat) : Bool :=
  rank s.changes c 0 s.changes.size % 2 == 1

end Intervals

end AccessRules.Text
