import AccessRules.Regex.Source
import AccessRules.Text.Numeral

/-!
# Escapes in regular expressions

A backslash makes a special character stand for itself, and gives a meaning to
letters and digits: classes of characters, places, control characters, code
points by number, and groups by number.  Letters without a meaning are errors,
and so are escapes by name.
-/

namespace AccessRules.Regex

open Text

/-- What an escape stands for. -/
inductive Escape where
  | letter (n : Nat)
  | category (category : Category) (negated : Bool)
  | anchor (a : Anchor)
  | group (index : Nat)
deriving DecidableEq, Repr

namespace Escape

/-- Control characters by their letters. -/
def control? (c : Char) : Option Nat :=
  if c = 'a' then some 7
  else if c = 'f' then some 12
  else if c = 'n' then some 10
  else if c = 'r' then some 13
  else if c = 't' then some 9
  else if c = 'v' then some 11
  else none

/-- Classes of characters by their letters. -/
def category? (c : Char) : Option Escape :=
  if c = 'd' then some (category .digit false)
  else if c = 'D' then some (category .digit true)
  else if c = 's' then some (category .space false)
  else if c = 'S' then some (category .space true)
  else if c = 'w' then some (category .word false)
  else if c = 'W' then some (category .word true)
  else none

/-- Places by their letters. -/
def anchor? (asciiOnly : Bool) (c : Char) : Option Escape :=
  if c = 'A' then some (anchor .textStart)
  else if c = 'Z' then some (anchor .textEnd)
  else if c = 'b' then some (anchor (.boundary false asciiOnly))
  else if c = 'B' then some (anchor (.boundary true asciiOnly))
  else none

/-- How many hexadecimal digits follow a letter. -/
def hexLength? (c : Char) : Option Nat :=
  if c = 'x' then some 2
  else if c = 'u' then some 4
  else if c = 'U' then some 8
  else none

/-- The number of code points. -/
def codePoints : Nat := 0x110000

/-- The largest number in three octal digits. -/
def largestOctal : Nat := 255

/-- A code point in exactly `length` hexadecimal digits. -/
def readHex (length : Nat) : Reader Escape := do
  let ds ← Reader.takeUpTo length isHexDigit
  let n := ofDigits 16 ds
  Reader.require (ds.length == length && n < codePoints)
  pure (letter n)

/-- A code point in the octal digits that begin with `c`, at most three. -/
def readOctal (c : Char) : Reader Escape := do
  let ds ← Reader.takeUpTo 2 isOctalDigit
  let n := ofDigits 8 (c :: ds)
  Reader.require (n ≤ largestOctal)
  pure (letter n)

/-- A number that begins with the digit `c` other than zero: a code point if it
has three octal digits, and a group if not. -/
def readNumber (c : Char) : Reader Escape := do
  let second ← Reader.takeUpTo 1 Char.isDigit
  let third ←
    if isOctalDigit c && !second.isEmpty && second.all isOctalDigit then
      Reader.takeUpTo 1 isOctalDigit
    else pure []
  if third.isEmpty then do
    let index ← Reader.reference (ofDigits 10 (c :: second))
    pure (group index)
  else do
    let n := ofDigits 8 (c :: second ++ third)
    Reader.require (n ≤ largestOctal)
    pure (letter n)

/-- What the character behind a backslash stands for where it has the same
meaning inside and outside of sets.  Characters are not known by their names
here, and the letter that begins an escape by name has no meaning. -/
def readCommon (c : Char) : Reader Escape :=
  match category? c, control? c, hexLength? c with
  | some e, _, _ => pure e
  | _, some n, _ => pure (letter n)
  | _, _, some length => readHex length
  | none, none, none => do
    Reader.require !c.isAlphanum
    pure (letter c.toNat)

/-- What the character behind a backslash stands for in a set. -/
def readInSet (c : Char) : Reader Escape :=
  if c = 'b' then pure (letter 8)
  else if isOctalDigit c then readOctal c
  else readCommon c

/-- What the character behind a backslash stands for outside of sets. -/
def read (asciiOnly : Bool) (c : Char) : Reader Escape :=
  match anchor? asciiOnly c with
  | some e => pure e
  | none =>
    if c = '0' then readOctal c
    else if c.isDigit then readNumber c
    else readCommon c

end Escape

end AccessRules.Regex
