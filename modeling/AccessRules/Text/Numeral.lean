/-!
# Numerals

Reading and writing natural numbers in a base of at most sixteen.  Letters count
as digits in either case when they are read, and are written in lower case.
-/

namespace AccessRules.Text

/-- Whether `c` is a hexadecimal digit. -/
def isHexDigit (c : Char) : Bool :=
  c.isDigit || ('a' ≤ c && c ≤ 'f') || ('A' ≤ c && c ≤ 'F')

/-- Whether `c` is an octal digit. -/
def isOctalDigit (c : Char) : Bool :=
  '0' ≤ c && c ≤ '7'

/-- Whether `c` is a binary digit. -/
def isBinaryDigit (c : Char) : Bool :=
  c == '0' || c == '1'

/-- The value of a digit. -/
def digitOf (c : Char) : Nat :=
  if c.isDigit then c.toNat - 48
  else if 'a' ≤ c then c.toNat - 87
  else c.toNat - 55

/-- The number that a list of digits stands for. -/
def ofDigits (base : Nat) (cs : List Char) : Nat :=
  cs.foldl (fun n c => base * n + digitOf c) 0

/-- Decimal numerals of more digits are neither read nor written. -/
def mostDigits : Nat := 4300

/-- The digits of `n` in base `base`, with zeros in front up to the given
width. -/
def paddedDigits (base width n : Nat) : List Char :=
  let ds := Nat.toDigits base n
  List.replicate (width - ds.length) '0' ++ ds

theorem ofDigits_append (base : Nat) (xs ys : List Char) :
    ofDigits base (xs ++ ys) =
      ys.foldl (fun n c => base * n + digitOf c) (ofDigits base xs) :=
  List.foldl_append

end AccessRules.Text
