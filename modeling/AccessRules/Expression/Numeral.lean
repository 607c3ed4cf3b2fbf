import AccessRules.Expression.Literal
import AccessRules.Text.Numeral

/-!
# Numbers in expressions

Numbers are written in decimal, or in base sixteen, eight or two behind `0x`,
`0o` or `0b`.  Single underscores may separate digits.  A point, an exponent or
a final `j` make a decimal number a fraction or an imaginary one.  A whole
decimal number does not begin with a zero unless it is zero, and has at most
4300 digits.

A number ends before a character that cannot belong to a name, or before one of
a few words that may follow a number without a blank.
-/

namespace AccessRules.Expression

open AccessRules.Text

/-- Whether a character may stand in a name, before the name is checked. -/
def isNameCharacter (c : Char) : Bool :=
  c.isAlphanum || c == '_' || 128 ≤ c.toNat

/-- Digits at the start of a text, with single underscores between them left
out. -/
def digitPart (p : Char → Bool) : List Char → Option (List Char × List Char)
  | [] => none
  | c :: cs =>
    if p c then
      match cs with
      | [] => some ([c], [])
      | d :: ds =>
        if d = '_' then (digitPart p ds).map fun (xs, rest) => (c :: xs, rest)
        else if p d then
          (digitPart p (d :: ds)).map fun (xs, rest) => (c :: xs, rest)
        else some ([c], d :: ds)
    else none

/-- The beginnings of words that may follow a number at once. -/
def wordsAfterNumber : List (List Char) :=
  [['a', 'n', 'd'], ['e', 'l', 's', 'e'], ['f', 'o', 'r'], ['i', 'f'],
    ['i', 'n'], ['i', 's'], ['o', 'r'], ['n', 'o', 't']]

/-- Whether a number may end before the given text. -/
def endsNumber : List Char → Bool
  | [] => true
  | c :: cs =>
    !isNameCharacter c || wordsAfterNumber.any (·.isPrefixOf (c :: cs))

/-- The number with the given end, if it may end there. -/
def finishNumber (v : Literal) (rest : List Char) :
    Option (Literal × List Char) :=
  if endsNumber rest then some (v, rest) else none

/-- A number behind a base mark: its digits, perhaps behind an underscore. -/
def scanBased (base : Nat) (p : Char → Bool) (cs : List Char) :
    Option (Literal × List Char) :=
  let cs := match cs with
    | '_' :: ds => ds
    | _ => cs
  match digitPart p cs with
  | some (ds, rest) => finishNumber (.integer (ofDigits base ds)) rest
  | none => none

/-- The parts of a decimal number. -/
structure DecimalParts where
  whole : List Char
  fraction : List Char
  exponent : Int
  isFraction : Bool

/-- The number `whole.fraction · 10 ^ exponent`. -/
def DecimalParts.value (p : DecimalParts) : Number.Binary64 :=
  .ofScientific (ofDigits 10 (p.whole ++ p.fraction))
    (p.exponent - p.fraction.length)

/-- A decimal number behind its exponent, if any: a final `j` makes it
imaginary. -/
def finishDecimal (p : DecimalParts) : List Char → Option (Literal × List Char)
  | c :: cs =>
    if c = 'j' ∨ c = 'J' then finishNumber (.imaginary p.value) cs
    else if p.isFraction then finishNumber (.decimal p.value) (c :: cs)
    else finishWhole (c :: cs)
  | [] =>
    if p.isFraction then finishNumber (.decimal p.value) [] else finishWhole []
where
  /-- A whole decimal number. -/
  finishWhole (rest : List Char) : Option (Literal × List Char) :=
    let n := ofDigits 10 p.whole
    if n ≠ 0 ∧ (p.whole.head? = some '0' ∨ mostDigits < p.whole.length) then
      none
    else finishNumber (.integer n) rest

/-- A decimal number behind its digits: perhaps an exponent.  An `e` without
digits behind it is no exponent, and neither is one that begins a word. -/
def scanExponent (p : DecimalParts) : List Char → Option (Literal × List Char)
  | c :: cs =>
    if c = 'e' ∨ c = 'E' then
      let (negative, signed, ds) := match cs with
        | '+' :: ds => (false, true, ds)
        | '-' :: ds => (true, true, ds)
        | ds => (false, false, ds)
      match ds with
      | d :: _ =>
        if d.isDigit then
          match digitPart Char.isDigit ds with
          | some (es, rest) =>
            let e : Int := ofDigits 10 es
            let exponent := if negative then -e else e
            finishDecimal { p with exponent, isFraction := true } rest
          | none => none
        else if signed then none
        else finishDecimal p (c :: cs)
      | [] => if signed then none else finishDecimal p (c :: cs)
    else finishDecimal p (c :: cs)
  | [] => finishDecimal p []

/-- A decimal number behind its point. -/
def scanFraction (whole cs : List Char) : Option (Literal × List Char) :=
  match cs with
  | d :: _ =>
    if d.isDigit then
      match digitPart Char.isDigit cs with
      | some (ds, rest) => scanExponent ⟨whole, ds, 0, true⟩ rest
      | none => none
    else scanExponent ⟨whole, [], 0, true⟩ cs
  | [] => scanExponent ⟨whole, [], 0, true⟩ []

/-- A decimal number. -/
def scanDecimal (cs : List Char) : Option (Literal × List Char) :=
  match digitPart Char.isDigit cs with
  | some (ds, '.' :: rest) => scanFraction ds rest
  | some (ds, rest) => scanExponent ⟨ds, [], 0, false⟩ rest
  | none => none

/-- The number at the start of a text that begins with a digit, or with a point
and a digit. -/
def scanNumber : List Char → Option (Literal × List Char)
  | '0' :: c :: cs =>
    if c = 'x' ∨ c = 'X' then scanBased 16 isHexDigit cs
    else if c = 'o' ∨ c = 'O' then scanBased 8 isOctalDigit cs
    else if c = 'b' ∨ c = 'B' then scanBased 2 isBinaryDigit cs
    else scanDecimal ('0' :: c :: cs)
  | '.' :: cs => scanFraction [] cs
  | cs => scanDecimal cs

end AccessRules.Expression
