import AccessRules.Expression.Grammar
import AccessRules.Expression.Lexer

/-!
# Reading an expression

A text is cut into tokens, and the tokens are read by the grammar.  A formatted
text inside the expression is well formed if each of its fields, put between
brackets, is an expression in turn.
-/

namespace AccessRules.Expression

/-- The expressions in the fields of all formatted texts among the tokens. -/
def fieldTexts (ts : List Token) : List (List Char) :=
  ts.flatMap fun
    | .formatted fields => fields
    | _ => []

/-- The tree of a text whose formatted texts nest at most as deep as the first
argument says. -/
def readNested : Nat → List Char → Option Tree
  | 0, _ => none
  | depth + 1, cs => do
    let ts ← tokens cs
    let t ← Grammar.ofTokens? ts
    if (fieldTexts ts).all fun field =>
        (readNested depth ('(' :: field ++ [')'])).isSome then
      some t
    else
      none

/-- The tree of a text, if the text is an expression. -/
def read? (cs : List Char) : Option Tree :=
  readNested (cs.length + 1) cs

end AccessRules.Expression
