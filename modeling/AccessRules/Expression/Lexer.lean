import AccessRules.Expression.Formatted
import AccessRules.Expression.Numeral
import AccessRules.Expression.Token
import AccessRules.Text.Identifier
import AccessRules.Text.Normal

/-!
# From text to tokens

An expression is cut into tokens from left to right, each as long as possible.
Blanks and comments separate tokens, a backslash before a line break joins two
lines, and line breaks inside brackets do not count.  Any other line break
becomes a token, and no line may be indented unless it is empty or holds only a
comment.

The text is refused when a part of it is no token: an unknown sign, an
unfinished literal, a malformed number or a bad name.
-/

namespace AccessRules.Expression

open AccessRules.Text

/-- Writes every line break as one newline character. -/
def unifyLineBreaks : List Char → List Char
  | [] => []
  | '\r' :: '\n' :: cs => '\n' :: unifyLineBreaks cs
  | c :: cs => (if c = '\r' then '\n' else c) :: unifyLineBreaks cs

/-- The marks in front of a quoted literal. -/
structure QuoteMarks where
  raw : Bool
  bytes : Bool
  formatted : Bool
deriving DecidableEq, Repr

/-- The marks that can stand in front of a quoted literal, in lower case. -/
def QuoteMarks.spellings : List (List Char × QuoteMarks) :=
  [([], ⟨false, false, false⟩), (['r'], ⟨true, false, false⟩),
    (['u'], ⟨false, false, false⟩), (['b'], ⟨false, true, false⟩),
    (['f'], ⟨false, false, true⟩), (['b', 'r'], ⟨true, true, false⟩),
    (['r', 'b'], ⟨true, true, false⟩), (['f', 'r'], ⟨true, false, true⟩),
    (['r', 'f'], ⟨true, false, true⟩)]

/-- Whether `c` begins a quoted literal. -/
def isQuote (c : Char) : Bool :=
  c == '\'' || c == '"'

/-- The marks in front of a quoted literal at the start of a text, and the text
from the quote on. -/
def quoteMarks? (cs : List Char) : Option (QuoteMarks × List Char) :=
  let letters := cs.takeWhile Char.isAlpha
  match cs.drop letters.length with
  | c :: rest =>
    if isQuote c then
      (QuoteMarks.spellings.lookup (letters.map Char.toLower)).map fun marks =>
        (marks, c :: rest)
    else none
  | [] => none

/-- The content of a quoted literal behind its opening quote, and what follows
the closing quote. -/
def quotedContent (quote : Char) : List Char → Option (List Char × List Char)
  | [] => none
  | c :: cs =>
    if c = quote then some ([], cs)
    else if c = '\n' then none
    else if c = '\\' then
      match cs with
      | [] => none
      | d :: ds =>
        (quotedContent quote ds).map fun (content, rest) =>
          (c :: d :: content, rest)
    else (quotedContent quote cs).map fun (content, rest) =>
      (c :: content, rest)

/-- The content of a literal in tripled quotes behind its opening quotes, and
what follows the closing ones. -/
def tripledContent (quote : Char) : List Char → Option (List Char × List Char)
  | [] => none
  | c :: cs =>
    if c = quote ∧ cs.take 2 = [quote, quote] then some ([], cs.drop 2)
    else if c = '\\' then
      match cs with
      | [] => none
      | d :: ds =>
        (tripledContent quote ds).map fun (content, rest) =>
          (c :: d :: content, rest)
    else (tripledContent quote cs).map fun (content, rest) =>
      (c :: content, rest)

/-- The content of the quoted literal at the start of a text, and what
follows. -/
def quotation : List Char → Option (List Char × List Char)
  | a :: b :: c :: cs =>
    if b = a ∧ c = a then tripledContent a cs
    else quotedContent a (b :: c :: cs)
  | a :: cs => quotedContent a cs
  | [] => none

/-- The token of a quoted literal with the given marks and content. -/
def quotedToken (marks : QuoteMarks) (content : List Char) : Option Token :=
  if marks.formatted then (Formatted.fields marks.raw content).map .formatted
  else if marks.bytes then
    (if marks.raw then rawBytes content else decodeBytes content).map .bytes
  else
    (if marks.raw then some content else decodeText content).map fun cs =>
      .text (String.ofList cs)

/-- The token of a word: a reserved word, or a name in its normal form. -/
def wordToken (word : List Char) : Option Token :=
  match Keyword.ofSpelling? (String.ofList word) with
  | some k => some (.keyword k)
  | none =>
    if isIdentifier word then some (.name (String.ofList (normalForm word)))
    else none

/-- Whether a number begins at the start of a text. -/
def beginsNumber : List Char → Bool
  | '.' :: d :: _ => d.isDigit
  | c :: _ => c.isDigit
  | [] => false

/-- Whether a word may begin with `c`. -/
def beginsWord (c : Char) : Bool :=
  c.isAlpha || c == '_' || 128 ≤ c.toNat

/-- The token at the start of a text, and what follows. -/
def scanToken (cs : List Char) : Option (Token × List Char) :=
  match quoteMarks? cs with
  | some (marks, rest) =>
    match quotation rest with
    | some (content, rest) => (quotedToken marks content).map (·, rest)
    | none => none
  | none =>
    if beginsNumber cs then
      (scanNumber cs).map fun (v, rest) => (.constant v, rest)
    else if (cs.head?.map beginsWord).getD false then
      (wordToken (cs.takeWhile isNameCharacter)).map
        (·, cs.dropWhile isNameCharacter)
    else (Symbol.scan? cs).map fun (s, rest) => (.symbol s, rest)

/-- Passes over the blanks at the start of a line, and over joined lines.  The
answer tells whether the line is indented: the first argument is the indentation
before the first join, the second the present one. -/
def passIndentation : Bool → Bool → List Char → Option (Bool × List Char)
  | joined, indented, [] => some (joined || indented, [])
  | joined, indented, c :: cs =>
    if c = ' ' ∨ c = '\t' then passIndentation joined true cs
    else if c = '\x0c' then passIndentation joined false cs
    else if c = '\\' then
      match cs with
      | '\n' :: d :: ds =>
        passIndentation (joined || indented) indented (d :: ds)
      | _ => none
    else some (joined || indented, c :: cs)

/-- The number of open brackets behind a token. -/
def depthAfter (depth : Nat) : Token → Option Nat
  | .symbol .openRound | .symbol .openSquare | .symbol .openCurly =>
    some (depth + 1)
  | .symbol .closeRound | .symbol .closeSquare | .symbol .closeCurly =>
    if depth = 0 then none else some (depth - 1)
  | _ => some depth

/-- The tokens of a text inside `depth` open brackets, at the start of a line or
within one. -/
def tokensFrom : Nat → Nat → Bool → List Char → Option (List Token)
  | 0, _, _, _ => none
  | fuel + 1, depth, true, cs =>
    match passIndentation false false cs with
    | none => none
    | some (_, []) => some []
    | some (indented, c :: rest) =>
      if c = '\n' then tokensFrom fuel depth true rest
      else if c = '#' then
        match rest.dropWhile (· ≠ '\n') with
        | [] => some []
        | _ :: rest => tokensFrom fuel depth true rest
      else if indented then none
      else tokensFrom fuel depth false (c :: rest)
  | _ + 1, _, false, [] => some []
  | fuel + 1, depth, false, c :: cs =>
    if c = ' ' ∨ c = '\t' ∨ c = '\x0c' then tokensFrom fuel depth false cs
    else if c = '#' then tokensFrom fuel depth false (cs.dropWhile (· ≠ '\n'))
    else if c = '\n' then
      if depth = 0 then (tokensFrom fuel 0 true cs).map (.newline :: ·)
      else tokensFrom fuel depth false cs
    else if c = '\\' then
      match cs with
      | '\n' :: d :: ds => tokensFrom fuel depth false (d :: ds)
      | _ => none
    else
      match scanToken (c :: cs) with
      | none => none
      | some (t, rest) =>
        match depthAfter depth t with
        | none => none
        | some depth => (tokensFrom fuel depth false rest).map (t :: ·)

/-- The tokens of a text. -/
def tokens (cs : List Char) : Option (List Token) :=
  let cs := unifyLineBreaks cs
  tokensFrom (2 * cs.length + 2) 0 true cs

end AccessRules.Expression
