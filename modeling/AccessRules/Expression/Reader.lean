import AccessRules.Expression.Token

/-!
# Reading from a list of tokens

A reader takes tokens from the front of a list and answers with what it has
read, or fails.
-/

namespace AccessRules.Expression

/-- Reads an `α` from the front of a list of tokens. -/
abbrev Reader (α : Type) := StateT (List Token) Option α

namespace Reader

/-- The next token, left in place. -/
def next? : Reader (Option Token) := fun ts => some (ts.head?, ts)

/-- Whether the next token is `t`; if so, it is taken. -/
def accept (t : Token) : Reader Bool := fun ts =>
  match ts with
  | u :: rest => if u = t then some (true, rest) else some (false, u :: rest)
  | [] => some (false, [])

/-- Takes the token `t`. -/
def expect (t : Token) : Reader Unit := fun ts =>
  match ts with
  | u :: rest => if u = t then some ((), rest) else none
  | [] => none

/-- Takes a name. -/
def expectName : Reader String := fun ts =>
  match ts with
  | .name s :: rest => some (s, rest)
  | _ => none

/-- Items up to the first attempt that yields none, at most as many as the first
argument says. -/
def repeatedAtMost (item : Reader (Option α)) : Nat → Reader (List α)
  | 0 => pure []
  | n + 1 => do
    match ← item with
    | none => pure []
    | some a => do
      let more ← repeatedAtMost item n
      pure (a :: more)

/-- Items up to the first attempt that yields none.  Every item takes a
token. -/
def repeated (item : Reader (Option α)) : Reader (List α) := fun ts =>
  repeatedAtMost item ts.length ts

/-- An item behind the token `t`, if that comes next. -/
def after (t : Token) (item : Reader α) : Reader (Option α) := do
  if ← accept t then
    let a ← item
    pure (some a)
  else
    pure none

/-- An item, and further ones behind the token `t` between them. -/
def separated (t : Token) (item : Reader α) : Reader (α × List α) := do
  let first ← item
  let more ← repeated (after t item)
  pure (first, more)

/-- Whether the next token ends a list of items: a closing bracket, a line break
or nothing. -/
def atEnd : Reader Bool := fun ts =>
  match ts with
  | .symbol .closeRound :: _ | .symbol .closeSquare :: _
  | .symbol .closeCurly :: _ | .newline :: _ | [] => some (true, ts)
  | _ => some (false, ts)

/-- Further items behind commas.  A comma may stand behind the last of them. -/
def furtherItems (item : Reader α) : Reader (List α) :=
  repeated do
    if ← accept (.symbol .comma) then
      if ← atEnd then
        pure none
      else
        let a ← item
        pure (some a)
    else
      pure none

end Reader

end AccessRules.Expression
