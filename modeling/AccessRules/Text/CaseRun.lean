/-!
# Tables of letter pairs

The case of a letter is changed by a table of runs: letters at equal steps whose
images lie at one common distance.  A code point outside every run stands for
itself.
-/

namespace AccessRules.Text

/-- The code points `first, first + step, …, last`; the image of `first` is
`image`, and the others keep their distance from it. -/
structure CaseRun where
  first : Nat
  last : Nat
  step : Nat
  image : Nat
deriving DecidableEq, Repr

namespace CaseRun

/-- Whether the run has an image for `c`. -/
def covers (r : CaseRun) (c : Nat) : Bool :=
  r.first.ble c && c.ble r.last && (c - r.first) % r.step == 0

/-- The image of a code point of the run. -/
def apply (r : CaseRun) (c : Nat) : Nat :=
  r.image + (c - r.first)

/-- The code points of the run whose image is `d`. -/
def preimage? (r : CaseRun) (d : Nat) : Option Nat :=
  let c := r.first + (d - r.image)
  if r.image ≤ d && r.covers c then some c else none

/-- Whether a code point of the run lies between two others. -/
def meets (r : CaseRun) (lo hi : Nat) : Bool :=
  let steps := (lo - r.first + r.step - 1) / r.step
  r.first + steps * r.step ≤ min r.last hi

end CaseRun

/-- The image of `c` under a table of runs. -/
def mapCase (runs : List CaseRun) (c : Nat) : Nat :=
  match runs.find? (·.covers c) with
  | some r => r.apply c
  | none => c

end AccessRules.Text
