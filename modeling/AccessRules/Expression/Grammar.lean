import AccessRules.Expression.Reader
import AccessRules.Expression.Tree

/-!
# The grammar of expressions

Expressions are read by recursive descent.  From the loosest to the tightest,
the levels are: a lambda or a conditional, `or`, `and`, `not`, chains of
comparisons, arithmetic, and operands with their trailers.  The operands of
`and` and of `or` at one level form one list.

All of arithmetic is one level.  Its operators do not matter to a tree without
arithmetic; only the outermost construct of an arithmetic expression is kept,
and that is a sign exactly when the expression begins with one and holds no
other operator than powers.

Every reader takes the reader for nested expressions as an argument.  Nested
expressions stand behind a bracket or a word, so the number of tokens bounds the
depth.
-/

namespace AccessRules.Expression.Grammar

open Reader

/-! ## Items -/

/-- How an item of a list is written. -/
inductive ItemForm where
  | plain
  | starred
  | assigning
deriving DecidableEq, Repr

/-- An expression, or a name that is assigned one. -/
def namedItem (expr : Reader Tree) : Reader (Tree × ItemForm) := fun ts =>
  match ts with
  | .name _ :: .symbol .walrus :: rest =>
    (expr rest).map fun (_, rest) =>
      ((.unsupported .assignment, .assigning), rest)
  | _ => (expr ts).map fun (t, rest) => ((t, .plain), rest)

/-- An expression, an assignment, or an operand that is unpacked. -/
def starredItem (expr arithmetic : Reader Tree) : Reader (Tree × ItemForm) := do
  if ← accept (.symbol .star) then
    let _ ← arithmetic
    pure (.unsupported .starred, .starred)
  else
    namedItem expr

/-- Adjacent quoted literals, joined.  Texts and byte strings do not mix. -/
def joinLiterals (pieces : List Token) : Option Tree :=
  let texts := pieces.filterMap fun
    | .text s => some s
    | .formatted _ => some ""
    | _ => none
  let bytes := pieces.filterMap fun
    | .bytes b => some b
    | _ => none
  let isFormatted := pieces.any fun
    | .formatted _ => true
    | _ => false
  match texts, bytes with
  | [], bytes => some (.constant (.bytes bytes.flatten))
  | texts, [] =>
    some (if isFormatted then .unsupported .formatted
      else .constant (.text (String.join texts)))
  | _, _ => none

/-- Whether a token is a quoted literal. -/
def isQuoted : Token → Bool
  | .text _ | .bytes _ | .formatted _ => true
  | _ => false

/-- Adjacent quoted literals. -/
def quotedLiterals : Reader Tree := fun ts =>
  let pieces := ts.takeWhile isQuoted
  (joinLiterals pieces).map fun t => (t, ts.drop pieces.length)

/-! ## Brackets behind an operand -/

/-- The end of an item inside square brackets. -/
def atSliceEnd : Reader Bool := do
  match ← next? with
  | some (.symbol .colon) | some (.symbol .comma)
  | some (.symbol .closeSquare) => pure true
  | _ => pure false

/-- The rest of a slice from its first colon on. -/
def sliceRest (expr : Reader Tree) : Reader Unit := do
  expect (.symbol .colon)
  if !(← atSliceEnd) then
    let _ ← expr
  if ← accept (.symbol .colon) then
    if !(← atSliceEnd) then
      let _ ← expr

/-- An item inside square brackets behind an operand. -/
def sliceItem (expr : Reader Tree) : Reader Unit := do
  if ← accept (.symbol .star) then
    let _ ← expr
  else
    match ← next? with
    | some (.symbol .colon) => sliceRest expr
    | _ =>
      let (_, form) ← namedItem expr
      match form, ← next? with
      | .plain, some (.symbol .colon) => sliceRest expr
      | _, _ => pure ()

/-- The items inside square brackets behind an operand, and the closing
bracket. -/
def slices (expr : Reader Tree) : Reader Unit := do
  sliceItem expr
  let _ ← furtherItems (sliceItem expr)
  expect (.symbol .closeSquare)

/-- Which arguments may still follow. -/
inductive ArgumentPhase where
  | positional
  | keywords
  | unpacking
deriving DecidableEq, Repr

/-- Whether a comprehension begins next. -/
def atComprehension : Reader Bool := do
  match ← next? with
  | some (.keyword .each) | some (.keyword .async) => pure true
  | _ => pure false

/-- One argument, which is none if it has a keyword, and which arguments may
follow it. -/
def argument (expr : Reader Tree) (phase : ArgumentPhase) :
    Reader (Option Tree × ArgumentPhase) := fun ts =>
  match ts with
  | .name _ :: .symbol .assign :: rest =>
    (expr rest).map fun (_, rest) =>
      ((none, if phase = .positional then .keywords else phase), rest)
  | .symbol .doubleStar :: rest =>
    (expr rest).map fun (_, rest) => ((none, .unpacking), rest)
  | .symbol .star :: rest =>
    if phase = .unpacking then none
    else (expr rest).map fun (_, rest) =>
      ((some (.unsupported .starred), phase), rest)
  | _ =>
    if phase = .positional then
      (namedItem expr ts).map fun ((t, _), rest) => ((some t, phase), rest)
    else none

/-- The arguments of a call up to its closing bracket, and whether some have
keywords.  A comprehension may stand for the only argument. -/
def argumentsFrom (expr : Reader Tree) (clauses : Reader Unit) :
    Nat → Bool → ArgumentPhase → Reader (List Tree × Bool)
  | 0, _, _ => failure
  | fuel + 1, isFirst, phase => do
    if ← accept (.symbol .closeRound) then
      pure ([], false)
    else
      let starts ← next?
      let (arg, phase) ← argument expr phase
      if isFirst && arg.isSome && starts != some (.symbol .star) &&
          (← atComprehension) then
        clauses
        expect (.symbol .closeRound)
        pure ([.unsupported .generator], false)
      else
        let (more, keywords) ←
          if ← accept (.symbol .comma) then
            argumentsFrom expr clauses fuel false phase
          else do
            expect (.symbol .closeRound)
            pure ([], false)
        match arg with
        | some t => pure (t :: more, keywords)
        | none => pure (more, true)

/-- The last trailer of an operand. -/
inductive Trailer where
  | absent
  | place
  | call
deriving DecidableEq, Repr

/-- An operand with the trailers behind it: members, items and calls. -/
def trailersFrom (expr : Reader Tree) (clauses : Reader Unit) :
    Nat → Tree → Trailer → Reader (Tree × Trailer)
  | 0, t, last => pure (t, last)
  | fuel + 1, t, last => do
    if ← accept (.symbol .openRound) then
      let (args, keywords) ← fun ts =>
        argumentsFrom expr clauses (ts.length + 1) true .positional ts
      trailersFrom expr clauses fuel (.call t args keywords) .call
    else if ← accept (.symbol .dot) then
      let _ ← expectName
      trailersFrom expr clauses fuel (.unsupported .member) .place
    else if ← accept (.symbol .openSquare) then
      slices expr
      trailersFrom expr clauses fuel (.unsupported .subscript) .place
    else
      pure (t, last)

/-! ## Operands -/

/-- What follows `yield` up to the closing bracket. -/
def yielded (expr arithmetic : Reader Tree) : Reader Tree := do
  if ← accept (.keyword .source) then
    let _ ← expr
    expect (.symbol .closeRound)
    pure (.unsupported .yieldFrom)
  else
    let item : Reader Unit := do
      if ← accept (.symbol .star) then
        let _ ← arithmetic
      else
        let _ ← expr
    if !(← atEnd) then
      item
      let _ ← furtherItems item
    expect (.symbol .closeRound)
    pure (.unsupported .yield)

/-- What follows an opening round bracket: a group, a tuple or a generator. -/
def roundRest (expr arithmetic : Reader Tree) (clauses : Reader Unit) :
    Reader Tree := do
  if ← accept (.symbol .closeRound) then
    pure (.unsupported .tuple)
  else if ← accept (.keyword .yielding) then
    yielded expr arithmetic
  else
    let (first, form) ← starredItem expr arithmetic
    match ← next? with
    | some (.symbol .comma) =>
      let _ ← furtherItems (starredItem expr arithmetic)
      expect (.symbol .closeRound)
      pure (.unsupported .tuple)
    | some (.symbol .closeRound) =>
      expect (.symbol .closeRound)
      if form = .starred then failure else pure first
    | _ =>
      if form = .starred then failure
      else
        clauses
        expect (.symbol .closeRound)
        pure (.unsupported .generator)

/-- What follows an opening square bracket: a list or a list comprehension. -/
def squareRest (expr arithmetic : Reader Tree) (clauses : Reader Unit) :
    Reader Tree := do
  if ← accept (.symbol .closeSquare) then
    pure (.unsupported .list)
  else
    let (_, form) ← starredItem expr arithmetic
    if ← atComprehension then
      if form = .starred then failure
      else
        clauses
        expect (.symbol .closeSquare)
        pure (.unsupported .listComprehension)
    else
      let _ ← furtherItems (starredItem expr arithmetic)
      expect (.symbol .closeSquare)
      pure (.unsupported .list)

/-- An entry of a dictionary. -/
def dictEntry (expr arithmetic : Reader Tree) : Reader Unit := do
  if ← accept (.symbol .doubleStar) then
    let _ ← arithmetic
  else
    let _ ← expr
    expect (.symbol .colon)
    let _ ← expr

/-- The further entries of a dictionary and the closing bracket. -/
def dictRest (expr arithmetic : Reader Tree) : Reader Tree := do
  let _ ← furtherItems (dictEntry expr arithmetic)
  expect (.symbol .closeCurly)
  pure (.unsupported .dict)

/-- What follows an opening curly bracket: a dictionary, a set, or a
comprehension of either kind. -/
def curlyRest (expr arithmetic : Reader Tree) (clauses : Reader Unit) :
    Reader Tree := do
  if ← accept (.symbol .closeCurly) then
    pure (.unsupported .dict)
  else if ← accept (.symbol .doubleStar) then
    let _ ← arithmetic
    dictRest expr arithmetic
  else
    let (_, form) ← starredItem expr arithmetic
    match form, ← next? with
    | .plain, some (.symbol .colon) =>
      expect (.symbol .colon)
      let _ ← expr
      if ← atComprehension then
        clauses
        expect (.symbol .closeCurly)
        pure (.unsupported .dictComprehension)
      else
        dictRest expr arithmetic
    | _, _ =>
      if ← atComprehension then
        if form = .starred then failure
        else
          clauses
          expect (.symbol .closeCurly)
          pure (.unsupported .setComprehension)
      else
        let _ ← furtherItems (starredItem expr arithmetic)
        expect (.symbol .closeCurly)
        pure (.unsupported .set)

/-- A name, a literal or a bracketed expression. -/
def atom (expr arithmetic : Reader Tree) (clauses : Reader Unit) :
    Reader Tree := fun ts =>
  match ts with
  | .name s :: rest => some (.name s, rest)
  | .constant v :: rest => some (.constant v, rest)
  | .keyword .truth :: rest => some (.constant (.truth true), rest)
  | .keyword .falsity :: rest => some (.constant (.truth false), rest)
  | .keyword .nothing :: rest => some (.constant .nothing, rest)
  | .symbol .dots :: rest => some (.constant .ellipsis, rest)
  | .symbol .openRound :: rest => roundRest expr arithmetic clauses rest
  | .symbol .openSquare :: rest => squareRest expr arithmetic clauses rest
  | .symbol .openCurly :: rest => curlyRest expr arithmetic clauses rest
  | .text _ :: _ | .bytes _ :: _ | .formatted _ :: _ => quotedLiterals ts
  | _ => none

/-- An atom with its trailers. -/
def primary (expr arithmetic : Reader Tree) (clauses : Reader Unit) :
    Reader (Tree × Trailer) := do
  let t ← atom expr arithmetic clauses
  fun ts => trailersFrom expr clauses ts.length t .absent ts

/-! ## Arithmetic -/

/-- The sign that a token can be. -/
def signOf? : Token → Option Sign
  | .symbol .plus => some .plus
  | .symbol .minus => some .minus
  | .symbol .tilde => some .complement
  | _ => none

/-- Whether a token stands between two operands of arithmetic; `true` inside for
a power. -/
def operatorOf? : Token → Option Bool
  | .symbol .doubleStar => some true
  | .symbol .plus | .symbol .minus | .symbol .star | .symbol .slash
  | .symbol .binary => some false
  | _ => none

/-- A primary, perhaps awaited, with its signs; the first sign is part of the
answer. -/
def signedOperand (expr arithmetic : Reader Tree) (clauses : Reader Unit) :
    Reader (Option Sign × Tree) := fun ts =>
  let signs := ts.takeWhile fun t => (signOf? t).isSome
  let sign := signs.head?.bind signOf?
  match ts.drop signs.length with
  | .keyword .await :: rest =>
    (primary expr arithmetic clauses rest).map fun (_, rest) =>
      ((sign, .unsupported .await), rest)
  | rest =>
    (primary expr arithmetic clauses rest).map fun ((t, _), rest) =>
      ((sign, t), rest)

/-- An operator of arithmetic and the operand behind it; the answer tells
whether it is a power. -/
def operation (expr arithmetic : Reader Tree) (clauses : Reader Unit) :
    Reader (Option Bool) := fun ts =>
  match ts with
  | t :: rest =>
    match operatorOf? t with
    | some isPower =>
      (signedOperand expr arithmetic clauses rest).map fun (_, rest) =>
        (some isPower, rest)
    | none => some (none, ts)
  | [] => some (none, ts)

/-- The outermost construct of an arithmetic expression. -/
def arithmeticTree (sign : Option Sign) (t : Tree) (powers : List Bool) :
    Tree :=
  match sign, powers with
  | none, [] => t
  | some s, powers =>
    if powers.all id then .signed s else .unsupported .arithmetic
  | none, _ :: _ => .unsupported .arithmetic

/-- Operands with operators of arithmetic between them. -/
def arithmeticWith (expr arithmetic : Reader Tree) (clauses : Reader Unit) :
    Reader Tree := do
  let (sign, t) ← signedOperand expr arithmetic clauses
  let powers ← repeated (operation expr arithmetic clauses)
  pure (arithmeticTree sign t powers)

/-! ## Comparisons and logic -/

/-- The comparison at the front of the tokens, and what follows it. -/
def comparatorOf? : List Token → Option (Comparator × List Token)
  | .symbol .equal :: rest => some (.equal, rest)
  | .symbol .unequal :: rest => some (.unequal, rest)
  | .symbol .less :: rest => some (.less, rest)
  | .symbol .atMost :: rest => some (.atMost, rest)
  | .symbol .greater :: rest => some (.greater, rest)
  | .symbol .atLeast :: rest => some (.atLeast, rest)
  | .keyword .within :: rest => some (.within, rest)
  | .keyword .neg :: .keyword .within :: rest => some (.outside, rest)
  | .keyword .same :: .keyword .neg :: rest => some (.different, rest)
  | .keyword .same :: rest => some (.same, rest)
  | _ => none

/-- A comparison and the operand behind it. -/
def link (arithmetic : Reader Tree) : Reader (Option (Comparator × Tree)) :=
  fun ts =>
  match comparatorOf? ts with
  | some (c, rest) => (arithmetic rest).map fun (t, rest) => (some (c, t), rest)
  | none => some (none, ts)

/-- A chain of comparisons, or a single operand. -/
def comparison (arithmetic : Reader Tree) : Reader Tree := do
  let first ← arithmetic
  let links ← repeated (link arithmetic)
  pure (if links.isEmpty then first else .comparison first links)

/-- A comparison behind any number of `not`. -/
def inversion (arithmetic : Reader Tree) : Reader Tree
  | .keyword .neg :: rest =>
    (inversion arithmetic rest).map fun (t, rest) => (.negation t, rest)
  | ts => comparison arithmetic ts

/-- Operands joined by `and`. -/
def conjunction (arithmetic : Reader Tree) : Reader Tree := do
  let (first, more) ← separated (.keyword .conj) (inversion arithmetic)
  pure (if more.isEmpty then first else .conj (first :: more))

/-- Operands joined by `or`. -/
def disjunction (arithmetic : Reader Tree) : Reader Tree := do
  let (first, more) ← separated (.keyword .disj) (conjunction arithmetic)
  pure (if more.isEmpty then first else .disj (first :: more))

/-! ## Comprehensions -/

/-- A target of a comprehension without a star: a place, or a pattern of targets
in brackets.  The bracketed targets are read by the given reader. -/
def bareTarget (primary : Reader (Tree × Trailer))
    (nested : Token → Reader Unit) : Reader Unit := fun ts =>
  match primary ts with
  | some ((_, .place), rest) => some ((), rest)
  | _ =>
    match ts with
    | .name _ :: rest => some ((), rest)
    | .symbol .openRound :: rest => nested (.symbol .closeRound) rest
    | .symbol .openSquare :: rest => nested (.symbol .closeSquare) rest
    | _ => none

/-- A target, which may be starred; the answer tells whether it is. -/
def target (primary : Reader (Tree × Trailer)) (nested : Token → Reader Unit) :
    Reader Bool := do
  let isStarred ← accept (.symbol .star)
  bareTarget primary nested
  pure isStarred

/-- The targets inside a bracket up to the closing one.  A single starred target
in round brackets needs a comma behind it. -/
def nestedTargets (primary : Reader (Tree × Trailer)) :
    Nat → Token → Reader Unit
  | 0, _ => failure
  | fuel + 1, close => do
    if ← accept close then
      pure ()
    else
      let isStarred ← target primary (nestedTargets primary fuel)
      let single ← next?
      let _ ← furtherItems (target primary (nestedTargets primary fuel))
      expect close
      if isStarred && close == .symbol .closeRound && single == some close then
        failure

/-- The targets of a comprehension. -/
def targets (primary : Reader (Tree × Trailer)) : Reader Unit := fun ts =>
  let nested := nestedTargets primary ts.length
  let further : Reader (List Bool) := repeated do
    if ← accept (.symbol .comma) then
      match ← next? with
      | some (.keyword .within) => pure none
      | _ =>
        let isStarred ← target primary nested
        pure (some isStarred)
    else
      pure none
  let all : Reader Unit := do
    let _ ← target primary nested
    let _ ← further
  all ts

/-- One clause of a comprehension, if one comes next. -/
def clause (primary : Reader (Tree × Trailer)) (arithmetic : Reader Tree) :
    Reader (Option Unit) := do
  if ← atComprehension then
    let _ ← accept (.keyword .async)
    expect (.keyword .each)
    targets primary
    expect (.keyword .within)
    let _ ← disjunction arithmetic
    let _ ← repeated (after (.keyword .cond) (disjunction arithmetic))
    pure (some ())
  else
    pure none

/-- One or more clauses of a comprehension. -/
def comprehension (primary : Reader (Tree × Trailer))
    (arithmetic : Reader Tree) : Reader Unit := do
  let clauses ← repeated (clause primary arithmetic)
  if clauses.isEmpty then failure

/-! ## Lambdas -/

/-- Where in a list of parameters the next one stands. -/
structure ParameterState where
  /-- Whether a parameter has been read. -/
  any : Bool
  /-- Whether the mark that ends the positional parameters has been read. -/
  slashed : Bool
  /-- Whether a parameter with a default value has been read. -/
  defaulted : Bool
  /-- Whether the star has been read. -/
  starred : Bool
  /-- Whether a star without a name still waits for a parameter. -/
  pending : Bool

/-- A comma, or a colon that is left in place. -/
def parameterEnd : Reader Unit := do
  if !(← accept (.symbol .comma)) then
    match ← next? with
    | some (.symbol .colon) => pure ()
    | _ => failure

/-- The parameters of a lambda up to its colon. -/
def parametersFrom (expr : Reader Tree) : Nat → ParameterState → Reader Unit
  | 0, _ => failure
  | fuel + 1, s => do
    if ← accept (.symbol .colon) then
      if s.pending then failure
    else if ← accept (.symbol .slash) then
      if s.slashed || s.starred || !s.any then failure
      else
        parameterEnd
        parametersFrom expr fuel { s with slashed := true }
    else if ← accept (.symbol .star) then
      if s.starred then failure
      else if ← accept (.symbol .comma) then
        parametersFrom expr fuel { s with starred := true, pending := true }
      else
        let _ ← expectName
        parameterEnd
        parametersFrom expr fuel { s with starred := true }
    else if ← accept (.symbol .doubleStar) then
      if s.pending then failure
      else
        let _ ← expectName
        parameterEnd
        expect (.symbol .colon)
    else
      let _ ← expectName
      if ← accept (.symbol .assign) then
        let _ ← expr
        parameterEnd
        parametersFrom expr fuel
          { s with any := true, defaulted := true, pending := false }
      else if s.defaulted && !s.starred then failure
      else
        parameterEnd
        parametersFrom expr fuel { s with any := true, pending := false }

/-- What follows the word `lambda`. -/
def lambdaRest (expr : Reader Tree) : Reader Tree := do
  (fun ts => parametersFrom expr (ts.length + 1)
    ⟨false, false, false, false, false⟩ ts : Reader Unit)
  let _ ← expr
  pure (.unsupported .lambda)

/-! ## Expressions -/

/-- A lambda, a conditional or a disjunction. -/
def conditional (expr arithmetic : Reader Tree) : Reader Tree := do
  if ← accept (.keyword .lambda) then
    lambdaRest expr
  else
    let t ← disjunction arithmetic
    if ← accept (.keyword .cond) then
      let _ ← disjunction arithmetic
      expect (.keyword .otherwise)
      let _ ← expr
      pure (.unsupported .conditional)
    else
      pure t

/-- The readers for one depth of nesting. -/
structure Level where
  expr : Reader Tree
  arithmetic : Reader Tree
  clauses : Reader Unit

/-- The readers for expressions that nest at most as deep as the argument
says. -/
def level : Nat → Level
  | 0 => ⟨failure, failure, failure⟩
  | depth + 1 =>
    let inner := level depth
    let arithmetic := arithmeticWith inner.expr inner.arithmetic inner.clauses
    let primary := primary inner.expr inner.arithmetic inner.clauses
    ⟨conditional inner.expr arithmetic, arithmetic,
      comprehension primary arithmetic⟩

/-- A whole text: expressions, which form a tuple if there is a comma, and line
breaks behind them. -/
def whole (expr : Reader Tree) : Reader Tree := do
  let first ← expr
  let hasComma := (← next?) == some (.symbol .comma)
  let _ ← furtherItems expr
  let _ ← repeated (after .newline (pure ()))
  match ← next? with
  | none => pure (if hasComma then .unsupported .tuple else first)
  | some _ => failure

/-- The tree that a list of tokens stands for. -/
def ofTokens? (ts : List Token) : Option Tree :=
  (whole (level (ts.length + 1)).expr ts).map (·.1)

end AccessRules.Expression.Grammar
