import AccessRules.Text.Numeral

/-!
# Escapes in quoted literals

The content of a quoted literal, without its quotes, is decoded into the
characters or bytes that it stands for.  A backslash begins an escape: a line
break that is left out, a quote or backslash that stands for itself, a control
letter, or a number in octal or hexadecimal digits.  A backslash before any
other character stands for itself.

Numbers of surrogates have no character; they are read as the replacement
character.  Characters are not known by their names, so an escape that gives a
name is malformed.
-/

namespace AccessRules.Expression

open AccessRules.Text

/-- The control character that an escape letter stands for. -/
def controlEscape? (c : Char) : Option Char :=
  if c = 'a' then some '\x07'
  else if c = 'b' then some '\x08'
  else if c = 'f' then some '\x0c'
  else if c = 'n' then some '\n'
  else if c = 'r' then some '\r'
  else if c = 't' then some '\t'
  else if c = 'v' then some '\x0b'
  else none

/-- Whether a character stands for itself behind a backslash. -/
def isSelfEscape (c : Char) : Bool :=
  c == '\\' || c == '\'' || c == '"'

/-- The character with a number; the replacement character where the number is a
surrogate.  So texts that differ in nothing but surrogates given by escapes are
the same text. -/
def characterOf (n : Nat) : Char :=
  if n.isValidChar then Char.ofNat n else '\ufffd'

/-- The octal digits at the start of a text, at most `limit` of them. -/
def octalDigits (limit : Nat) (cs : List Char) : List Char :=
  (cs.take limit).takeWhile isOctalDigit

/-- The number in exactly `count` hexadecimal digits at the start of a text. -/
def hexNumber? (count : Nat) (cs : List Char) : Option Nat :=
  let ds := cs.take count
  if ds.length = count ∧ ds.all isHexDigit then some (ofDigits 16 ds) else none

/-- The escape behind a backslash: what it stands for, and how many characters
it takes. -/
inductive Escape where
  | omitted
  | character (n : Nat) (length : Nat)
  | kept
  | malformed
deriving DecidableEq, Repr

/-- An escape by number: the value of `count` hexadecimal digits behind one
letter. -/
def Escape.hex (count : Nat) (cs : List Char) : Escape :=
  match hexNumber? count cs with
  | some n => if n < 0x110000 then .character n (count + 1) else .malformed
  | none => .malformed

/-- Reads the escape that begins with `c`, behind a backslash, when more
characters `cs` follow.  Escapes by long numbers and by names belong to texts
alone.  Characters are not known by their names here, and an escape by name is
malformed, whatever the name. -/
def Escape.read (inText : Bool) (c : Char) (cs : List Char) : Escape :=
  if c = '\n' then .omitted
  else if isSelfEscape c then .character c.toNat 1
  else if isOctalDigit c then
    let ds := octalDigits 3 (c :: cs)
    .character (ofDigits 8 ds) ds.length
  else if c = 'x' then .hex 2 cs
  else if inText && c == 'u' then .hex 4 cs
  else if inText && c == 'U' then .hex 8 cs
  else if inText && c == 'N' then .malformed
  else
    match controlEscape? c with
    | some d => .character d.toNat 1
    | none => .kept

/-- Decodes the content of a text, or fails at a malformed escape.  The number
of characters still to be passed over is the first argument. -/
def decodeFrom : Nat → List Char → Option (List Char)
  | _, [] => some []
  | skip + 1, _ :: cs => decodeFrom skip cs
  | 0, c :: cs =>
    if c = '\\' then
      match cs with
      | [] => some ['\\']
      | d :: ds =>
        match Escape.read true d ds with
        | .omitted => decodeFrom 1 cs
        | .character n length => (decodeFrom length cs).map (characterOf n :: ·)
        | .kept => (decodeFrom 0 cs).map ('\\' :: ·)
        | .malformed => none
    else
      (decodeFrom 0 cs).map (c :: ·)

/-- Decodes the content of a text. -/
def decodeText (cs : List Char) : Option (List Char) :=
  decodeFrom 0 cs

/-- Decodes the content of a byte string; its characters are all ASCII. -/
def decodeBytesFrom : Nat → List Char → Option (List UInt8)
  | _, [] => some []
  | skip + 1, _ :: cs => decodeBytesFrom skip cs
  | 0, c :: cs =>
    if 128 ≤ c.toNat then none
    else if c = '\\' then
      match cs with
      | [] => some [92]
      | d :: ds =>
        if 128 ≤ d.toNat then none
        else
          match Escape.read false d ds with
          | .omitted => decodeBytesFrom 1 cs
          | .character n length =>
            (decodeBytesFrom length cs).map (UInt8.ofNat n :: ·)
          | .kept => (decodeBytesFrom 0 cs).map (92 :: ·)
          | .malformed => none
    else
      (decodeBytesFrom 0 cs).map (UInt8.ofNat c.toNat :: ·)

/-- Decodes the content of a byte string. -/
def decodeBytes (cs : List Char) : Option (List UInt8) :=
  decodeBytesFrom 0 cs

/-- The bytes of a byte string without escapes. -/
def rawBytes (cs : List Char) : Option (List UInt8) :=
  if cs.all (·.toNat < 128) then some (cs.map fun c => UInt8.ofNat c.toNat)
  else none

end AccessRules.Expression
