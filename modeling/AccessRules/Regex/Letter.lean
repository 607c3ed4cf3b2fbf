import AccessRules.Text.Blank
import AccessRules.Text.Fold
import AccessRules.Text.Word

/-!
# Tests on one character

A regular expression tests the characters of a text one at a time: against one
letter, against a set, or against nothing at all.  Characters are meant by their
code points, so a pattern may also name code points that no text holds.

How letter case is ignored is a folding.  A letter without case stands for
itself under every folding.  A set with a letter that has case, or with code
points beyond the first 65536, is compared with the lower-case letter of a
character; a set without them is compared with the character itself.
-/

namespace AccessRules.Regex

open Text

/-- How letter case counts: it does, it is ignored for ASCII letters, or it is
ignored for all letters. -/
inductive Folding where
  | exact
  | ascii
  | full
deriving DecidableEq, Repr

namespace Folding

/-- Whether the case of a code point is ignored. -/
def isCased : Folding → Nat → Bool
  | exact, _ => false
  | ascii, n => isAsciiCased n
  | full, n => Text.isCased n

/-- The lower-case letter by which a code point is compared. -/
def lower : Folding → Nat → Nat
  | exact, n => n
  | ascii, n => lowerAscii n
  | full, n => lowerCode n

/-- The other lower-case letters that count as the same letter. -/
def companions : Folding → Nat → List Nat
  | full, n => Text.companions n
  | _, _ => []

/-- The code points that are compared by the lower-case letter `d`. -/
def preimages : Folding → Nat → List Nat
  | exact, d => [d]
  | ascii, d => [d, d - 32].filter (lowerAscii · = d)
  | full, d => lowerPreimages d

/-- Whether a code point between two others has case. -/
def hasCasedBetween : Folding → Nat → Nat → Bool
  | exact, _, _ => false
  | ascii, lo, hi => (lo ≤ 90 && 65 ≤ hi) || (lo ≤ 122 && 97 ≤ hi)
  | full, lo, hi =>
    lowerRuns.any (·.meets lo hi) || upperRuns.any (·.meets lo hi) ||
      upperExpansions.any fun (n, _) => lo ≤ n && n ≤ hi

end Folding

/-- Classes of characters that a pattern can name. -/
inductive Category where
  | digit
  | space
  | word
deriving DecidableEq, Repr

/-- Whether a character belongs to a class; on demand the class is restricted to
ASCII. -/
def Category.contains (asciiOnly : Bool) (category : Category) (c : Char) :
    Bool :=
  match category, asciiOnly with
  | digit, true => c.isDigit
  | digit, false => isDecimal c
  | space, true => isAsciiBlank c
  | space, false => isBlank c
  | word, true => isAsciiWord c
  | word, false => isWord c

/-- The members of a set. -/
inductive Member where
  | single (n : Nat)
  | range (lo hi : Nat)
  | category (category : Category) (negated asciiOnly : Bool)
deriving DecidableEq, Repr

namespace Member

/-- The first code point behind the basic plane. -/
def beyondBasic : Nat := 0x10000

/-- Whether letter case matters to a member. -/
def isCased (folding : Folding) : Member → Bool
  | single n => folding.isCased n || (beyondBasic ≤ n && folding != .exact)
  | range lo hi =>
    folding.hasCasedBetween lo hi || (beyondBasic ≤ hi && folding != .exact)
  | category .. => false

/-- Whether a code point belongs to a member as it is. -/
def contains (n : Nat) : Member → Bool
  | single m => n == m
  | range lo hi => lo ≤ n && n ≤ hi
  | category k negated asciiOnly =>
    k.contains asciiOnly (Char.ofNat n) != negated

/-- Whether the lower-case letter `d` belongs to a member up to letter case.
Beyond the basic plane a single member stands for itself, and a range is
compared with `d` and with its capital. -/
def containsFolded (folding : Folding) (d : Nat) : Member → Bool
  | single m =>
    if beyondBasic ≤ m then d == m
    else (folding.lower m :: folding.companions (folding.lower m)).contains d
  | range lo hi =>
    let basic (n : Nat) : Bool := lo ≤ n && n ≤ hi && n < beyondBasic
    (d :: folding.companions d).any
      (fun e => (folding.preimages e).any basic) ||
        (beyondBasic ≤ hi &&
          ((lo ≤ d && d ≤ hi) || (lo ≤ upperCode d && upperCode d ≤ hi)))
  | category k negated asciiOnly => contains d (category k negated asciiOnly)

end Member

/-- A test on one character. -/
inductive CharTest where
  | any
  | notNewline
  | letter (negated : Bool) (n : Nat) (folding : Folding)
  | oneOf (negated : Bool) (members : List Member) (folding : Folding)
deriving DecidableEq, Repr

namespace CharTest

/-- Whether a character is the letter `n`, up to the case that is ignored. -/
def isLetter (folding : Folding) (n : Nat) (c : Char) : Bool :=
  if folding.isCased n then
    (folding.lower n :: folding.companions (folding.lower n)).contains
      (folding.lower c.toNat)
  else
    c.toNat == n

/-- Whether a character belongs to a set, up to the case that is ignored. -/
def isMember (folding : Folding) (members : List Member) (c : Char) : Bool :=
  if members.any (·.isCased folding) then
    members.any (·.containsFolded folding (folding.lower c.toNat))
  else
    members.any (·.contains c.toNat)

/-- Whether a character passes a test. -/
def accepts (c : Char) : CharTest → Bool
  | any => true
  | notNewline => c != '\n'
  | letter negated n folding => isLetter folding n c != negated
  | oneOf negated members folding => isMember folding members c != negated

end CharTest

theorem CharTest.isLetter_exact (n : Nat) (c : Char) :
    isLetter .exact n c = (c.toNat == n) := rfl

end AccessRules.Regex
