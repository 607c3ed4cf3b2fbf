import AccessRules.Regex.Match
import AccessRules.Regex.Reading

/-!
# Path patterns

A path pattern is a path with wildcards.  A question mark stands for one
character of a segment, and a star for any run of such characters.  Two stars
stand for any run of characters without a line break; behind a slash and up to
the end of a segment they stand for a whole subtree, the slash included, or for
nothing.

A pattern is a list of tokens.  Each token is a regular expression, and has a
written form that reads as the same regular expression.
-/

namespace AccessRules.Pattern

open Regex

/-- A token of a path pattern. -/
inductive Token where
  | subtree
  | anything
  | run
  | one
  | letter (c : Char)
deriving DecidableEq, Repr

/-- The tokens of a path pattern. -/
def tokens : List Char → List Token
  | [] => []
  | '/' :: '*' :: '*' :: cs =>
    if cs = [] ∨ cs.head? = some '/' then .subtree :: tokens cs
    else .letter '/' :: .anything :: tokens cs
  | '*' :: '*' :: cs => .anything :: tokens cs
  | '*' :: cs => .run :: tokens cs
  | '?' :: cs => .one :: tokens cs
  | c :: cs => .letter c :: tokens cs

/-- The folding of a pattern that tells upper and lower case apart, or does
not. -/
def folding (caseSensitive : Bool) : Folding :=
  if caseSensitive then .exact else .full

/-- As many of something as possible. -/
def many (n : Node) : Node := .loop 0 none .greedy n

/-- A character other than a slash. -/
def inSegment (f : Folding) : Node := .test (.letter true '/'.toNat f)

namespace Token

/-- The regular expression of a token. -/
def node (f : Folding) : Token → Node
  | subtree =>
    .loop 0 (some 1) .greedy
      (.cat (.test (.letter false '/'.toNat f)) (many (.test .notNewline)))
  | anything => many (.test .notNewline)
  | run => many (inSegment f)
  | one => inSegment f
  | letter c => .test (.letter false c.toNat f)

/-- The characters with a meaning of their own in regular expressions, and the
blanks. -/
def special : List Char :=
  "()[]\x7b\x7d?*+-|^$\\.&~# \t\n\r\x0b\x0c".toList

/-- The written form of a token. -/
def regexText : Token → List Char
  | subtree => "(?:/.*)?".toList
  | anything => ".*".toList
  | run => "[^/]*".toList
  | one => "[^/]".toList
  | letter c => if special.contains c then ['\\', c] else [c]

end Token

/-- The regular expression of a path pattern. -/
def node (caseSensitive : Bool) (pattern : String) : Node :=
  Node.sequence ((tokens pattern.toList).map (·.node (folding caseSensitive)))

/-- The written form of the regular expression of a path pattern. -/
def regexText (pattern : String) : String :=
  String.ofList ((tokens pattern.toList).flatMap Token.regexText)

/-- The pattern that selects every path. -/
def matchAll : String := "/**"

/-- Whether a pattern is one of the two that select every path without looking
at it. -/
def selectsAll (pattern : String) : Bool :=
  pattern == matchAll || pattern == "**"

/-- Whether a path pattern selects a path. -/
def selects (caseSensitive : Bool) (pattern path : String) : Bool :=
  selectsAll pattern || (node caseSensitive pattern).matchesAll path.toList

end AccessRules.Pattern
