import AccessRules.Regex.Bracket
import AccessRules.Regex.Opening

/-!
# Reading regular expressions

A pattern is a choice between sequences of parts, and a part may be repeated.  A
group without a number and without options of its own is no part of its own: its
parts belong to the sequence around it.

A choice between sequences that begin with the same simple parts has these in
front of it, and a choice between single characters and sets is one set.
-/

namespace AccessRules.Regex

/-- A part of a sequence; a simple part is one character or place, or a
reference to a group. -/
structure Part where
  isSimple : Bool
  node : Node
deriving DecidableEq, Repr

/-- How a piece of a sequence may be repeated. -/
inductive PieceKind where
  | plain
  | anchor
  | repeated
deriving DecidableEq, Repr

/-- A piece of a sequence as it is written; a group without a number is one
piece of many parts. -/
structure Piece where
  kind : PieceKind
  parts : List Part
deriving DecidableEq, Repr

namespace Piece

/-- A piece of one simple part. -/
def simple (n : Node) : Piece := ⟨.plain, [⟨true, n⟩]⟩

/-- A piece of one compound part. -/
def compound (n : Node) : Piece := ⟨.plain, [⟨false, n⟩]⟩

/-- The node of a piece. -/
def node (p : Piece) : Node := Node.sequence (p.parts.map (·.node))

end Piece

/-- The node of a list of parts. -/
def Part.join (parts : List Part) : Node := Node.sequence (parts.map (·.node))

/-! ## Choices -/

/-- The simple part that all sequences begin with. -/
def Part.commonHead? : List (List Part) → Option Part
  | (p :: _) :: others =>
    if p.isSimple && others.all (fun parts => parts.head? == some p) then some p
    else none
  | _ => none

/-- The simple parts that all sequences begin with, and what is left of the
sequences. -/
def Part.factor : Nat → List (List Part) → List Part × List (List Part)
  | 0, sequences => ([], sequences)
  | n + 1, sequences =>
    match commonHead? sequences with
    | some p =>
      let (parts, others) := factor n (sequences.map (·.drop 1))
      (p :: parts, others)
    | none => ([], sequences)

/-- The members and the folding of a sequence that is one character or set. -/
def Part.members? : List Part → Option (List Member × Folding)
  | [⟨true, .test (.letter false n folding)⟩] => some ([.single n], folding)
  | [⟨true, .test (.oneOf false members folding)⟩] => some (members, folding)
  | _ => none

/-- A choice between sequences. -/
def Part.choose (sequences : List (List Part)) : List Part :=
  match sequences with
  | [parts] => parts
  | _ =>
    let (shared, others) := factor (sequences.headD []).length sequences
    match others.mapM members? with
    | some ((ms, folding) :: more) =>
      let members := Member.distinct (ms ++ more.flatMap (·.1))
      shared ++ [⟨true, .test (.oneOf false members folding)⟩]
    | _ => shared ++ [⟨false, Node.choice (others.map join)⟩]

/-! ## Repetitions -/

/-- From this number of rounds on, a limit is too large. -/
def roundLimit : Nat := Nat.pow 2 32 - 1

/-- A number of rounds. -/
def readRounds (digits : List Char) : Reader Nat := do
  if Text.mostDigits < digits.length then
    Reader.fail .oversizedNumber
  else
    let n := Text.ofDigits 10 digits
    if roundLimit ≤ n then Reader.fail .oversizedRepetition else pure n

/-- The limits of a repetition in braces, or nothing if the opening brace stands
for itself.  The brace itself was taken before. -/
def readBraces? : Reader (Option (Nat × Option Nat)) := do
  let items ← Reader.rest
  if items.head? = some (.plain '\x7d') then
    pure none
  else
    let lo ← Reader.takeWhile Char.isDigit
    let hasComma ← Reader.accept ','
    let hi ← if hasComma then Reader.takeWhile Char.isDigit else pure lo
    if !(← Reader.accept '\x7d') then
      Reader.proceed items
      pure none
    else
      let least ← if lo.isEmpty then pure 0 else readRounds lo
      if hi.isEmpty then
        pure (some (least, none))
      else
        let most ← readRounds hi
        Reader.require (least ≤ most)
        pure (some (least, some most))

/-- The limits of the repetition that begins with a character, or nothing if
that character stands for itself. -/
def readLimits? (c : Char) : Reader (Option (Nat × Option Nat)) :=
  if c = '*' then pure (some (0, none))
  else if c = '+' then pure (some (1, none))
  else if c = '?' then pure (some (0, some 1))
  else if c = '\x7b' then readBraces?
  else pure none

/-- What a repetition prefers, from the sign behind it. -/
def readGreed : Reader Greed := do
  if ← Reader.accept '?' then
    pure .lazy
  else if ← Reader.accept '+' then
    pure .possessive
  else
    pure .greedy

/-- The last piece repeated.  Pieces stand in reverse order. -/
def repeatLast (least : Nat) (most : Option Nat) :
    List Piece → Reader (List Piece)
  | [] => Reader.fail .malformed
  | p :: ps => do
    Reader.require (p.kind = .plain)
    let greed ← readGreed
    pure (⟨.repeated, [⟨false, .loop least most greed p.node⟩]⟩ :: ps)

/-! ## Sequences -/

/-- Whether a character stands for itself everywhere in a pattern where
whitespace is ignored. -/
def isIgnored (options : Options) (i : Item) : Bool :=
  options.verbose && (Reader.plain? i).any Text.isAsciiBlank

/-- The items behind the end of a line.  A backslash at the end of the pattern
is not passed over. -/
def behindLine : List Item → List Item
  | [] => []
  | i :: is =>
    if i = .plain '\n' then is
    else if i = .dangling then i :: is
    else behindLine is

/-- The piece that an escape stands for. -/
def Escape.piece (options : Options) : Escape → Piece
  | .letter n => .simple (.test (.letter false n options.folding))
  | .category k negated =>
    .simple (.test
      (.oneOf false [.category k negated options.asciiOnly] options.folding))
  | .anchor a => ⟨.anchor, [⟨true, .anchor a⟩]⟩
  | .group index => .simple (.again index options.folding)

/-- The piece of one character outside of brackets and parentheses. -/
def Piece.ofChar (options : Options) (c : Char) : Piece :=
  if c = '.' then .simple (.test (if options.dotAll then .any else .notNewline))
  else if c = '^' then
    ⟨.anchor,
      [⟨true, .anchor (if options.multiline then .lineStart else .textStart)⟩]⟩
  else if c = '$' then
    ⟨.anchor,
      [⟨true, .anchor (if options.multiline then .lineEnd else .lastLineEnd)⟩]⟩
  else .simple (.test (.letter false c.toNat options.folding))

/-- Reads the body of a look-behind, and keeps the groups in mind that were
opened before it. -/
def lookingBehind (body : Reader α) : Reader α := do
  let outer := (← get).behindGroups
  modify fun s => { s with behindGroups := some (outer.getD s.widths.length) }
  let a ← body
  modify fun s => { s with behindGroups := outer }
  pure a

/-- The piece that looks ahead. -/
def Piece.ahead (negated : Bool) (body : List Part) : Piece :=
  .compound (.ahead negated (Part.join body))

/-- The piece that looks behind. -/
def Piece.behind (negated : Bool) (body : List Part) : Reader Piece := do
  let s ← get
  let node := Part.join body
  pure (.compound
    (.behind negated (node.width (Reader.widthOf s.widths)).least node))

mutual

/-- Reads sequences up to the end of a group or of the pattern.  `isWhole` says
that they are the whole pattern. -/
def readChoice : Nat → Options → Bool → Reader (List Part)
  | 0, _, _ => Reader.fail .malformed
  | fuel + 1, options, isWhole => do
    let first ← readSequence fuel options isWhole []
    let others ← readOthers fuel options isWhole
    pure (Part.choose (first :: others))

/-- Reads the sequences behind the first one. -/
def readOthers : Nat → Options → Bool → Reader (List (List Part))
  | 0, _, _ => Reader.fail .malformed
  | fuel + 1, options, isWhole => do
    if ← Reader.accept '|' then
      let s ← get
      let options := if isWhole then s.options else options
      let next ← readSequence fuel options false []
      let others ← readOthers fuel options isWhole
      pure (next :: others)
    else
      pure []

/-- Reads a sequence behind the given pieces, which stand in reverse order.
`isFirst` says that it is the first one of the pattern. -/
def readSequence : Nat → Options → Bool → List Piece → Reader (List Part)
  | 0, _, _, _ => Reader.fail .malformed
  | fuel + 1, options, isFirst, pieces => do
    match ← Reader.rest with
    | [] => pure (pieces.reverse.flatMap (·.parts))
    | i :: items =>
      if i = .plain '|' || i = .plain ')' then
        pure (pieces.reverse.flatMap (·.parts))
      else do
        Reader.proceed items
        if isIgnored options i then
          readSequence fuel options isFirst pieces
        else if options.verbose && i = .plain '#' then do
          Reader.proceed (behindLine items)
          readSequence fuel options isFirst pieces
        else
          match i with
          | .dangling => Reader.fail .malformed
          | .escaped c => do
            let e ← Escape.read options.asciiOnly c
            readSequence fuel options isFirst (e.piece options :: pieces)
          | .plain c =>
            if c = '(' then do
              let opening ← Opening.read options
              if opening = .comment then
                readSequence fuel options isFirst pieces
              else if opening = .global then do
                Reader.require (isFirst && pieces.isEmpty)
                let s ← get
                readSequence fuel s.options isFirst pieces
              else do
                let piece ← readGroup fuel options opening
                readSequence fuel options isFirst (piece :: pieces)
            else if c = '[' then do
              let t ← CharTest.readSet options
              readSequence fuel options isFirst (.simple (.test t) :: pieces)
            else if c = '*' || c = '+' || c = '?' || c = '\x7b' then do
              match ← readLimits? c with
              | some (least, most) => do
                let pieces ← repeatLast least most pieces
                readSequence fuel options isFirst pieces
              | none =>
                readSequence fuel options isFirst
                  (Piece.ofChar options c :: pieces)
            else
              readSequence fuel options isFirst
                (Piece.ofChar options c :: pieces)

/-- Reads the body of a group and its closing parenthesis. -/
def readGroup : Nat → Options → Opening → Reader Piece
  | 0, _, _ => Reader.fail .malformed
  | fuel + 1, options, opening => do
    match opening with
    | .numbered name => do
      let index ← Reader.openGroup name
      let body ← readChoice fuel options false
      Reader.expect ')'
      Reader.closeGroup index (Part.join body)
      pure (.compound (.group index (Part.join body)))
    | .bare => do
      let body ← readChoice fuel options false
      Reader.expect ')'
      pure ⟨.plain, body⟩
    | .atomic => do
      let body ← readChoice fuel options false
      Reader.expect ')'
      pure (.compound (.atomic (Part.join body)))
    | .ahead negated => do
      let body ← readChoice fuel options false
      Reader.expect ')'
      pure (.ahead negated body)
    | .behind negated => do
      let body ← lookingBehind (readChoice fuel options false)
      Reader.expect ')'
      Piece.behind negated body
    | .condition index => do
      let yes ← readSequence fuel options false []
      let hasNo ← Reader.accept '|'
      let no ← if hasNo then readSequence fuel options false [] else pure []
      Reader.expect ')'
      pure (.compound (.ifGroup index (Part.join yes) (Part.join no)))
    | .under inner => do
      let body ← readChoice fuel inner false
      Reader.expect ')'
      pure (.compound (Part.join body))
    | .reference index => pure (.simple (.again index options.folding))
    | .comment | .global => Reader.fail .malformed

end

/-- Reads a whole pattern. -/
def readPattern (size : Nat) : Reader Node := do
  Reader.proceed (← Reader.rest)
  let s ← get
  let parts ← readChoice (4 * size + 4) s.options true
  let s ← get
  if s.options.asciiOnly && s.unicode then
    Reader.fail .conflictingFlags
  else
    Reader.require s.rest.isEmpty
    Reader.require (s.conditions.all (· ≤ s.widths.length))
    let node := Part.join parts
    Reader.require (node.looksBehindEvenly (Reader.widthOf s.widths))
    Reader.require !(s.templated && node.hasLoop)
    pure node

/-- The regular expression that a text describes, without regard to letter case
on demand. -/
def read (ignoreCase : Bool) (text : List Char) : Except Problem Node :=
  let items := Item.ofChars text
  let start : Progress :=
    ⟨items, ⟨ignoreCase, false, false, false, false⟩, false, false, [], [],
      [], none⟩
  (readPattern items.length start).map (·.1)

end AccessRules.Regex
