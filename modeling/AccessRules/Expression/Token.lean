import AccessRules.Expression.Literal

/-!
# Tokens of expressions

The words, numbers, texts and signs of an expression.  Texts carry their decoded
content.  A text with embedded fields carries the texts of these fields only,
because no accepted expression contains one.

Signs that have the same place in the grammar are one symbol: all operators that
stand only between two operands are `binary`, and every sign that no expression
can contain is `stray`.
-/

namespace AccessRules.Expression

/-- The reserved words with a place in expressions; all others are
`reserved`. -/
inductive Keyword where
  | conj
  | disj
  | neg
  | cond
  | otherwise
  | each
  | within
  | same
  | lambda
  | yielding
  | source
  | await
  | async
  | truth
  | falsity
  | nothing
  | reserved
deriving DecidableEq, Repr

/-- The spellings of the reserved words. -/
def Keyword.spellings : List (String × Keyword) :=
  [("and", .conj), ("or", .disj), ("not", .neg), ("if", .cond),
    ("else", .otherwise), ("for", .each), ("in", .within), ("is", .same),
    ("lambda", .lambda), ("yield", .yielding), ("from", .source),
    ("await", .await), ("async", .async), ("True", .truth), ("False", .falsity),
    ("None", .nothing)] ++
  (["as", "assert", "break", "class", "continue", "def", "del", "elif",
    "except", "finally", "global", "import", "nonlocal", "pass", "raise",
    "return", "try", "while", "with"].map (·, .reserved))

/-- The reserved word with a spelling. -/
def Keyword.ofSpelling? (s : String) : Option Keyword :=
  spellings.lookup s

/-- The signs of expressions. -/
inductive Symbol where
  | openRound
  | closeRound
  | openSquare
  | closeSquare
  | openCurly
  | closeCurly
  | comma
  | colon
  | dot
  | dots
  | assign
  | walrus
  | plus
  | minus
  | tilde
  | star
  | doubleStar
  | slash
  | binary
  | equal
  | unequal
  | less
  | atMost
  | greater
  | atLeast
  | stray
deriving DecidableEq, Repr

/-- The spellings of the signs, longer ones before their own beginnings. -/
def Symbol.spellings : List (List Char × Symbol) :=
  [(['.', '.', '.'], .dots), (['*', '*', '='], .stray),
    (['/', '/', '='], .stray), (['<', '<', '='], .stray),
    (['>', '>', '='], .stray), (['*', '*'], .doubleStar), (['/', '/'], .binary),
    (['<', '<'], .binary), (['>', '>'], .binary), (['=', '='], .equal),
    (['!', '='], .unequal), (['<', '='], .atMost), (['>', '='], .atLeast),
    (['<', '>'], .stray), ([':', '='], .walrus), (['-', '>'], .stray),
    (['+', '='], .stray), (['-', '='], .stray), (['*', '='], .stray),
    (['/', '='], .stray), (['%', '='], .stray), (['&', '='], .stray),
    (['|', '='], .stray), (['^', '='], .stray), (['@', '='], .stray),
    (['('], .openRound), ([')'], .closeRound), (['['], .openSquare),
    ([']'], .closeSquare), (['\x7b'], .openCurly), (['\x7d'], .closeCurly),
    ([','], .comma), ([':'], .colon), (['.'], .dot), ([';'], .stray),
    (['+'], .plus), (['-'], .minus), (['*'], .star), (['/'], .slash),
    (['|'], .binary), (['&'], .binary), (['^'], .binary), (['%'], .binary),
    (['@'], .binary), (['<'], .less), (['>'], .greater), (['='], .assign),
    (['~'], .tilde)]

/-- The longest sign at the start of a text, and the text behind it. -/
def Symbol.scan? (cs : List Char) : Option (Symbol × List Char) :=
  (spellings.find? fun (spelling, _) => spelling.isPrefixOf cs).map
    fun (spelling, s) => (s, cs.drop spelling.length)

/-- A token of an expression. -/
inductive Token where
  | name (s : String)
  | keyword (k : Keyword)
  | constant (v : Literal)
  | text (s : String)
  | bytes (b : List UInt8)
  | formatted (fields : List (List Char))
  | symbol (s : Symbol)
  | newline
deriving DecidableEq

end AccessRules.Expression
