import AccessRules.Expression.Escape
import AccessRules.Text.Blank

/-!
# Texts with embedded fields

A formatted text holds fields between braces; a doubled brace stands for itself.
A field is an expression, perhaps followed by `=`, by a conversion `!s`, `!r` or
`!a`, and by a format behind a colon.  A format may hold fields in turn, but
only one level deep.

Here the texts of the embedded expressions are found.  Whether each of them is
an expression is decided elsewhere.
-/

namespace AccessRules.Expression.Formatted

/-- How a literal part of a formatted text ends. -/
inductive PartEnd where
  | doubled
  | brace
  | finished
deriving DecidableEq, Repr

/-- Whether `c` is a brace. -/
def isBrace (c : Char) : Bool :=
  c == '\x7b' || c == '\x7d'

/-- The literal part at the start of a formatted text, how it ends, and what
follows.  A doubled brace is passed over, a single one is left in place.  Inside
a format no brace is doubled. -/
def literalPart (raw inFormat : Bool) :
    List Char → Option (List Char × PartEnd × List Char)
  | [] => some ([], .finished, [])
  | c :: cs =>
    if isBrace c then
      if inFormat then some ([], .brace, c :: cs)
      else
        match cs with
        | d :: ds =>
          if d = c then some ([c], .doubled, ds)
          else if c = '\x7d' then none
          else some ([], .brace, c :: cs)
        | [] => if c = '\x7d' then none else some ([], .brace, [c])
    else if c = '\\' && !raw then
      match cs with
      | d :: ds =>
        if isBrace d then
          (literalPart raw inFormat (d :: ds)).map fun (part, e, rest) =>
            (c :: part, e, rest)
        else (literalPart raw inFormat ds).map fun (part, e, rest) =>
          (c :: d :: part, e, rest)
      | [] => some ([c], .finished, [])
    else (literalPart raw inFormat cs).map fun (part, e, rest) =>
      (c :: part, e, rest)

/-- Whether a literal part has no malformed escape. -/
def isDecodable (raw : Bool) (part : List Char) : Bool :=
  raw || (decodeText part).isSome

/-- The bracket that closes an opening one. -/
def closing? (c : Char) : Option Char :=
  if c = '(' then some ')'
  else if c = '[' then some ']' else if c = '\x7b' then some '\x7d' else none

/-- Whether `c` closes a bracket. -/
def isClosing (c : Char) : Bool :=
  c == ')' || c == ']' || c == '\x7d'

/-- A quoted literal inside the expression of a field: its quote, and whether it
is tripled. -/
structure OpenQuote where
  quote : Char
  tripled : Bool

/-- The text of the expression that begins a field, and what follows from the
sign that ends it on.  The open quoted literal and the closing brackets still
expected are carried along.  Backslashes and comments are not allowed. -/
def expressionText :
    Option OpenQuote → List Char → List Char → Option (List Char × List Char)
  | _, _, [] => none
  | some q, expected, c :: cs =>
    if c = '\\' then none
    else if c = q.quote then
      if q.tripled then
        match cs with
        | a :: b :: ds =>
          if a = c ∧ b = c then
            (expressionText none expected ds).map fun (xs, rest) =>
              (c :: a :: b :: xs, rest)
          else (expressionText (some q) expected (a :: b :: ds)).map
            fun (xs, rest) => (c :: xs, rest)
        | ds =>
          (expressionText (some q) expected ds).map fun (xs, rest) =>
            (c :: xs, rest)
      else (expressionText none expected cs).map fun (xs, rest) =>
        (c :: xs, rest)
    else (expressionText (some q) expected cs).map fun (xs, rest) =>
      (c :: xs, rest)
  | none, expected, c :: cs =>
    if c = '\\' ∨ c = '#' then none
    else if c = '\'' ∨ c = '"' then
      match cs with
      | a :: b :: ds =>
        if a = c ∧ b = c then
          (expressionText (some ⟨c, true⟩) expected ds).map fun (xs, rest) =>
            (c :: a :: b :: xs, rest)
        else
          (expressionText (some ⟨c, false⟩) expected (a :: b :: ds)).map
            fun (xs, rest) => (c :: xs, rest)
      | ds =>
        (expressionText (some ⟨c, false⟩) expected ds).map fun (xs, rest) =>
          (c :: xs, rest)
    else
      match closing? c with
      | some d =>
        (expressionText none (d :: expected) cs).map fun (xs, rest) =>
          (c :: xs, rest)
      | none =>
        match expected with
        | [] =>
          if c = '!' ∨ c = ':' ∨ c = '\x7d' ∨ c = '=' ∨ c = '<' ∨ c = '>' then
            match cs with
            | '=' :: ds =>
              if c = '!' ∨ c = '=' ∨ c = '<' ∨ c = '>' then
                (expressionText none [] ds).map fun (xs, rest) =>
                  (c :: '=' :: xs, rest)
              else some ([], c :: cs)
            | ds =>
              if c = '<' ∨ c = '>' then
                (expressionText none [] ds).map fun (xs, rest) =>
                  (c :: xs, rest)
              else some ([], c :: cs)
          else if isClosing c then none
          else (expressionText none [] cs).map fun (xs, rest) => (c :: xs, rest)
        | d :: expected =>
          if isClosing c then
            if c = d then
              (expressionText none expected cs).map fun (xs, rest) =>
                (c :: xs, rest)
            else none
          else (expressionText none (d :: expected) cs).map fun (xs, rest) =>
            (c :: xs, rest)

/-- Passes over the `=` that may follow the expression of a field, with the
blanks behind it. -/
def passEquals : List Char → List Char
  | '=' :: cs => cs.dropWhile Text.isAsciiBlank
  | cs => cs

/-- Passes over the conversion that may follow the expression of a field. -/
def passConversion : List Char → Option (List Char)
  | '!' :: c :: cs => if c = 's' ∨ c = 'r' ∨ c = 'a' then some cs else none
  | ['!'] => none
  | cs => some cs

/-- The expressions of the fields from here to the end of the text or format,
and what follows.  The level counts the formats around. -/
def fieldsFrom (raw : Bool) :
    Nat → Nat → List Char → Option (List (List Char) × List Char)
  | 0, _, _ => none
  | fuel + 1, level, cs =>
    match literalPart raw (level != 0) cs with
    | none => none
    | some (part, ending, rest) =>
      if !isDecodable raw part then none
      else
        match ending, rest with
        | .finished, _ => if level = 0 then some ([], rest) else none
        | .doubled, _ => fieldsFrom raw fuel level rest
        | .brace, '\x7b' :: rest =>
          if 2 ≤ level then none
          else
            match expressionText none [] rest with
            | none => none
            | some (expression, rest) =>
              if expression.all Text.isAsciiBlank then none
              else
                match passConversion (passEquals rest) with
                | none => none
                | some (':' :: rest) =>
                  match fieldsFrom raw fuel (level + 1) rest with
                  | some (inner, '\x7d' :: rest) =>
                    (fieldsFrom raw fuel level rest).map fun (fields, rest) =>
                      (expression :: inner ++ fields, rest)
                  | _ => none
                | some ('\x7d' :: rest) =>
                  (fieldsFrom raw fuel level rest).map fun (fields, rest) =>
                    (expression :: fields, rest)
                | some _ => none
        | .brace, _ => if level = 0 then none else some ([], rest)

/-- The expressions of all fields of a formatted text. -/
def fields (raw : Bool) (cs : List Char) : Option (List (List Char)) :=
  (fieldsFrom raw (2 * cs.length + 2) 0 cs).map (·.1)

end AccessRules.Expression.Formatted
