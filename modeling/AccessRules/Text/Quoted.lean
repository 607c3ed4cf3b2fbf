import AccessRules.Text.Numeral
import AccessRules.Text.Printable

/-!
# Quoted texts

The quoted form of a text, as messages show it.  Single quotes enclose it, or
double quotes when it holds single quotes and no double ones.  A backslash goes
before the enclosing quote, before another backslash and before the letters for
newline, carriage return and tabulation; any other character that is not
printable is written by its number.

A byte string has the same form behind a `b`, with every byte outside printable
ASCII written by its number.
-/

namespace AccessRules.Text

/-- The quote that encloses a text. -/
def enclosingQuote (cs : List Char) : Char :=
  if cs.contains '\'' && !cs.contains '"' then '"' else '\''

/-- A character written by its number: two, four or eight hexadecimal digits. -/
def numberedEscape (n : Nat) : List Char :=
  if n < 0x100 then '\\' :: 'x' :: paddedDigits 16 2 n
  else if n < 0x10000 then '\\' :: 'u' :: paddedDigits 16 4 n
  else '\\' :: 'U' :: paddedDigits 16 8 n

/-- How one character stands inside the given quotes, when `shown` characters
stand for themselves. -/
def quotedChar (shown : Char → Bool) (quote c : Char) : List Char :=
  if c = quote ∨ c = '\\' then ['\\', c]
  else if c = '\n' then ['\\', 'n']
  else if c = '\r' then ['\\', 'r']
  else if c = '\t' then ['\\', 't']
  else if shown c then [c]
  else numberedEscape c.toNat

/-- The quoted form of a text. -/
def quotedChars (cs : List Char) : List Char :=
  let quote := enclosingQuote cs
  quote :: cs.flatMap (quotedChar isPrintable quote) ++ [quote]

/-- The quoted form of a text. -/
def quoted (s : String) : String :=
  String.ofList (quotedChars s.toList)

/-- The quoted form of a byte string. -/
def quotedBytes (bytes : List UInt8) : String :=
  let cs := bytes.map fun b => Char.ofNat b.toNat
  let quote := enclosingQuote cs
  let shown (c : Char) : Bool := 32 ≤ c.toNat && c.toNat < 127
  String.ofList ('b' :: quote :: cs.flatMap (quotedChar shown quote) ++ [quote])

/-- Texts between square brackets, separated by commas. -/
def listed (items : List String) : String :=
  "[" ++ ", ".intercalate items ++ "]"

end AccessRules.Text
