import AccessRules.Number.Binary64

/-!
# The shortest decimal text of a number

A number is written with the fewest decimal digits that read back as the same
number; of several such decimals the nearest is taken.  The text is positional
for values from `0.0001` up to below `10 ^ 16`, and has an exponent of at least
two digits otherwise.
-/

namespace AccessRules.Number

/-- The least `j` from `start` on with `den ≤ num · 10 ^ j`, within the given
number of attempts. -/
def leadingZeros (num den : Nat) : Nat → Nat → Nat
  | 0, start => start
  | attempts + 1, start =>
    if den ≤ num * Nat.pow 10 start then start
    else leadingZeros num den attempts (start + 1)

/-- The position of the decimal point of a positive quotient: the least `k` with
`num / den < 10 ^ k`. -/
def pointPosition (num den : Nat) : Int :=
  if den ≤ num then (Nat.toDigits 10 (num / den)).length
  else 1 - (leadingZeros num den 400 1 : Int)

/-- A decimal with `count` digits that reads back as `x`, for a value `num /
den` whose decimal point lies at `point`; the nearer one if both neighbours
do. -/
def decimalWith? (x : Binary64) (num den : Nat) (point : Int) (count : Nat) :
    Option (Nat × Int) :=
  let e : Int := point - count
  let (n, d) :=
    if 0 ≤ e then (num, den * Nat.pow 10 e.toNat)
    else (num * Nat.pow 10 (-e).toNat, den)
  let low := n / d
  let lowReads := decide (Binary64.ofScientific low e = x)
  let highReads := decide (Binary64.ofScientific (low + 1) e = x)
  let nearer := Binary64.roundHalfEven n d
  match lowReads, highReads with
  | true, true => some (nearer, e)
  | true, false => some (low, e)
  | false, true => some (low + 1, e)
  | false, false => none

/-- The shortest decimal `digits · 10 ^ exponent` of a positive finite
number. -/
def shortest (m : Nat) (q : Int) : Nat × Int :=
  let (num, den) := Binary64.ratio m q
  let point := pointPosition num den
  ((List.range 17).findSome? fun i =>
    decimalWith? (.finite m q) num den point (i + 1)).getD (0, 0)

/-- How numbers are written: up to which exponents the text is positional, and
whether a whole number keeps a zero behind its point. -/
structure Style where
  lowest : Int
  highest : Int
  pointZero : Bool

/-- Plain numbers keep a zero behind the point. -/
def Style.plain : Style := ⟨-3, 16, true⟩

/-- Imaginary numbers drop the point of a whole number. -/
def Style.imaginary : Style := ⟨-3, 16, false⟩

/-- The text of an exponent: its sign and at least two digits. -/
def exponentText (e : Int) : List Char :=
  let ds := Nat.toDigits 10 e.natAbs
  'e' :: (if e < 0 then '-' else '+') ::
    (if ds.length < 2 then '0' :: ds else ds)

/-- The text of `0.d₁d₂… · 10 ^ point`, for digits without zeros at the end. -/
def Style.write (style : Style) (ds : List Char) (point : Int) : List Char :=
  let count : Int := ds.length
  if point < style.lowest ∨ style.highest < point then
    ds.take 1 ++ (if ds.length ≤ 1 then [] else '.' :: ds.drop 1) ++
      exponentText (point - 1)
  else if point ≤ 0 then
    '0' :: '.' :: List.replicate (-point).toNat '0' ++ ds
  else if count ≤ point then
    ds ++ List.replicate (point - count).toNat '0' ++
      (if style.pointZero then ['.', '0'] else [])
  else
    ds.take point.toNat ++ '.' :: ds.drop point.toNat

/-- The shortest text of a number. -/
def Binary64.text (style : Style) : Binary64 → String
  | .infinite => "inf"
  | .finite 0 _ => if style.pointZero then "0.0" else "0"
  | .finite m q =>
    let (n, e) := shortest m q
    let ds := Nat.toDigits 10 n
    let point : Int := ds.length + e
    String.ofList (style.write ((ds.reverse.dropWhile (· = '0')).reverse) point)

end AccessRules.Number
