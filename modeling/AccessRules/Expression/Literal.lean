import AccessRules.Value

/-!
# Literals

The constants of an access expression, which are also the values that it
computes with.  A variable may also hold a value that no constant denotes: a
negative number, a list or a dictionary.

Numbers of all kinds are compared by value, and the two truth values count as
one and zero among them.  All other literals are equal only to themselves.
-/

namespace AccessRules

/-- A constant of an expression, or a foreign value that no constant denotes. -/
inductive Literal where
  | nothing
  | truth (b : Bool)
  | integer (n : Nat)
  | decimal (x : Number.Binary64)
  | imaginary (x : Number.Binary64)
  | text (s : String)
  | bytes (b : List UInt8)
  | ellipsis
  | foreign (v : Value)
deriving DecidableEq

namespace Literal

/-- The name of the kind of a literal. -/
def kindName : Literal → String
  | nothing => "NoneType"
  | truth _ => "bool"
  | integer _ => "int"
  | decimal _ => "float"
  | imaginary _ => "complex"
  | text _ => "str"
  | bytes _ => "bytes"
  | ellipsis => "ellipsis"
  | foreign v => v.kindName

/-- The form of a literal in messages. -/
def shown : Literal → String
  | nothing => "None"
  | truth b => if b then "True" else "False"
  | integer n => toString n
  | decimal x => x.text .plain
  | imaginary x => x.text .imaginary ++ "j"
  | text s => Text.quoted s
  | bytes b => Text.quotedBytes b
  | ellipsis => "Ellipsis"
  | foreign v => v.shown

/-- Whether a literal has a form in messages. -/
def isShowable : Literal → Bool
  | integer n => n < Nat.pow 10 Text.mostDigits
  | _ => true

/-- Whether a literal counts as false where a truth value is expected of any
value. -/
def isEmpty : Literal → Bool
  | nothing => true
  | truth b => !b
  | integer n => n == 0
  | decimal x => x.isZero
  | imaginary x => x.isZero
  | text s => s == ""
  | bytes b => b.isEmpty
  | ellipsis => false
  | foreign v => v == .list [] || v == .dict []

/-- The literal for a value, foreign where no constant denotes it. -/
def ofValue : Value → Literal
  | .null => nothing
  | .bool b => truth b
  | .int n => if 0 ≤ n then integer n.toNat else foreign (.int n)
  | .real negative x =>
    if negative && !x.isZero then foreign (.real negative x) else decimal x
  | .text s => text s
  | v => foreign v

/-- A truth value as the number it counts as; other literals stay as they
are. -/
def counted : Literal → Literal
  | truth b => integer b.toNat
  | a => a

/-- Equality of literals that are no truth values. -/
def sameCounted : Literal → Literal → Bool
  | integer m, integer n => m == n
  | integer m, decimal x | decimal x, integer m => x.equalsNat m
  | decimal x, decimal y => decide (x = y)
  | imaginary x, imaginary y => decide (x = y)
  | imaginary x, integer n | integer n, imaginary x => x.isZero && n == 0
  | imaginary x, decimal y | decimal y, imaginary x => x.isZero && y.isZero
  | foreign v, foreign w => v.same w
  | a, b => decide (a = b)

/-- Equality as expressions see it. -/
def same (a b : Literal) : Bool :=
  sameCounted a.counted b.counted

end Literal

end AccessRules
