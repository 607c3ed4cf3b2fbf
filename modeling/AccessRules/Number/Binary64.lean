/-!
# Nonnegative double-precision numbers

A nonnegative number with 53 significant binary digits, kept exactly, or
infinity.  Quotients of natural numbers are rounded to the nearest such number,
a tie to the one whose last binary digit is zero.

Finite numbers `m · 2 ^ q` are canonical: `m` has 53 binary digits, or fewer
when `q` is the least exponent.  So two values are equal exactly when they are
the same number.
-/

namespace AccessRules.Number

/-- A nonnegative double-precision number. -/
inductive Binary64 where
  | finite (m : Nat) (q : Int)
  | infinite
deriving DecidableEq, Repr

namespace Binary64

/-- The exponent of the smallest positive number. -/
def leastExponent : Int := -1074

/-- The largest exponent of a finite number. -/
def greatestExponent : Int := 971

/-- Numerator and denominator of `num / den · 2 ^ (-q)`. -/
def scale (num den : Nat) (q : Int) : Nat × Nat :=
  if 0 ≤ q then (num, den * Nat.pow 2 q.toNat)
  else (num * Nat.pow 2 (-q).toNat, den)

/-- The natural number nearest to a quotient, a tie going to the even one. -/
def roundHalfEven (num den : Nat) : Nat :=
  let floor := num / den
  let twice := 2 * (num % den)
  if twice < den then floor
  else if den < twice then floor + 1
  else if floor % 2 = 0 then floor else floor + 1

/-- The number `m · 2 ^ q` for an `m` of at most 54 binary digits that is exact
in the range of `q`. -/
def assemble (m : Nat) (q : Int) : Binary64 :=
  let (m, q) := if m = Nat.pow 2 53 then (Nat.pow 2 52, q + 1) else (m, q)
  if greatestExponent < q then infinite else finite m q

/-- The number nearest to `num / den`. -/
def ofRatio (num den : Nat) : Binary64 :=
  if num = 0 ∨ den = 0 then finite 0 leastExponent
  else
    let q : Int := (num.log2 : Int) - den.log2 - 52
    let (n, d) := scale num den q
    let q := if n < d * Nat.pow 2 52 then q - 1 else q
    let q := max q leastExponent
    let (n, d) := scale num den q
    assemble (roundHalfEven n d) q

/-- The number nearest to `n · 10 ^ e`.  Exponents far outside the range are
decided by size alone. -/
def ofScientific (n : Nat) (e : Int) : Binary64 :=
  let size : Int := (Nat.toDigits 10 n).length + e
  if n = 0 ∨ size < -400 then finite 0 leastExponent
  else if 400 < size then infinite
  else if 0 ≤ e then ofRatio (n * Nat.pow 10 e.toNat) 1
  else ofRatio n (Nat.pow 10 (-e).toNat)

/-- A finite number as a quotient. -/
def ratio (m : Nat) (q : Int) : Nat × Nat :=
  if 0 ≤ q then (m * Nat.pow 2 q.toNat, 1) else (m, Nat.pow 2 (-q).toNat)

/-- Whether the number is zero. -/
def isZero : Binary64 → Bool
  | finite m _ => m == 0
  | infinite => false

/-- Whether the number is finite and has no fraction. -/
def isWhole : Binary64 → Bool
  | finite m q =>
    let (a, b) := ratio m q
    a % b == 0
  | infinite => false

/-- Whether the number equals a natural number. -/
def equalsNat : Binary64 → Nat → Bool
  | finite m q, n =>
    let (a, b) := ratio m q
    a == n * b
  | infinite, _ => false

/-- Whether the number is greater than a natural number. -/
def exceedsNat : Binary64 → Nat → Bool
  | finite m q, n =>
    let (a, b) := ratio m q
    n * b < a
  | infinite, _ => true

end Binary64

end AccessRules.Number
