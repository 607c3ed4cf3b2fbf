import AccessRules.Regex.Node

/-!
# Matching

A text is matched by backtracking: each node tries its ways of going on in order
of preference, and hands each of them to what follows, until one leads to a
match of the whole text.

A repetition does its least number of rounds first.  A further round is started
only where the last one that was not required began elsewhere, so a round that
consumes nothing is not done again.
-/

namespace AccessRules.Regex

/-- A place in a text: its distance from the start, the characters before it in
reverse order, those after it, and what the groups matched, the latest first. -/
structure Position where
  place : Nat
  before : List Char
  after : List Char
  groups : List (Nat × List Char)
deriving DecidableEq, Repr

namespace Position

/-- The start of a text. -/
def start (text : List Char) : Position := ⟨0, [], text, []⟩

/-- The position behind the next character `c`, before the characters `cs`. -/
def advance (p : Position) (c : Char) (cs : List Char) : Position :=
  { p with place := p.place + 1, before := c :: p.before, after := cs }

/-- The text between two positions. -/
def between (first second : Position) : List Char :=
  (second.before.take (second.place - first.place)).reverse

/-- The text that a group matched last. -/
def group? (p : Position) (index : Nat) : Option (List Char) :=
  p.groups.lookup index

/-- The place `n` characters back, if there is one. -/
def back? (p : Position) (n : Nat) : Option Position :=
  if n ≤ p.place then
    some ⟨p.place - n, p.before.drop n,
      (p.before.take n).reverse ++ p.after, p.groups⟩
  else
    none

/-- Whether the place has a word character on one side only. -/
def isBoundary (asciiOnly : Bool) (p : Position) : Bool :=
  let isWord (c : Char) : Bool := Category.word.contains asciiOnly c
  p.before.head?.any isWord != p.after.head?.any isWord

end Position

/-- Whether a place is the one that an anchor names.  An empty text has neither
a word boundary nor a place without one. -/
def Anchor.holds (p : Position) : Anchor → Bool
  | textStart => p.before.isEmpty
  | lineStart => p.before.head?.all (· == '\n')
  | textEnd => p.after.isEmpty
  | lineEnd => p.after.head?.all (· == '\n')
  | lastLineEnd => p.after == [] || p.after == ['\n']
  | boundary inside asciiOnly =>
    !(p.before.isEmpty && p.after.isEmpty) && p.isBoundary asciiOnly != inside

/-- What follows the characters of `word` at the front of a text, up to letter
case. -/
def dropWord? (folding : Folding) : List Char → Position → Option Position
  | [], p => some p
  | c :: cs, p =>
    match p.after with
    | d :: ds =>
      if folding.lower c.toNat = folding.lower d.toNat then
        dropWord? folding cs (p.advance d ds)
      else none
    | [] => none

/-- A way to go on from a position. -/
abbrev Next := Position → Option Position

/-- Does a step a number of times, and then goes on. -/
def rounds (step : Position → Next → Option Position) :
    Nat → Position → Next → Option Position
  | 0, p, next => next p
  | n + 1, p, next => step p fun q => rounds step n q next

/-- Does a step as often as possible and goes on, or does it once less.  Here
`left` bounds the rounds, and `last` is the place where the last round began. -/
def greedyRounds (step : Position → Next → Option Position) (next : Next) :
    Nat → Option Nat → Position → Option Position
  | 0, _, p => next p
  | left + 1, last, p =>
    if last = some p.place then next p
    else
      match step p fun q => greedyRounds step next left (some p.place) q with
      | some r => some r
      | none => next p

/-- Goes on, or does a step once more. -/
def lazyRounds (step : Position → Next → Option Position) (next : Next) :
    Nat → Option Nat → Position → Option Position
  | 0, _, p => next p
  | left + 1, last, p =>
    match next p with
    | some r => some r
    | none =>
      if last = some p.place then none
      else step p fun q => lazyRounds step next left (some p.place) q

/-- Does a step as often as possible, each time in the first way that
succeeds. -/
def possessiveRounds (step : Position → Next → Option Position) :
    Nat → Option Nat → Position → Position
  | 0, _, p => p
  | left + 1, last, p =>
    if last = some p.place then p
    else
      match step p some with
      | some q => possessiveRounds step left (some p.place) q
      | none => p

/-- How many rounds a repetition may add to the required ones.  Without a limit,
more rounds than there are characters left would have to consume nothing. -/
def extraRounds (least : Nat) (p : Position) : Option Nat → Nat
  | some most => most - least
  | none => p.after.length + 2

/-- All required rounds, each in the first way that succeeds. -/
def firstRounds (step : Position → Next → Option Position) :
    Nat → Position → Option Position
  | 0, p => some p
  | n + 1, p =>
    match step p some with
    | some q => firstRounds step n q
    | none => none

/-- Matches a node at a position and goes on from where the match ends. -/
def Node.run : Node → Position → Next → Option Position
  | empty, p, next => next p
  | test t, p, next =>
    match p.after with
    | c :: cs => if t.accepts c then next (p.advance c cs) else none
    | [] => none
  | anchor a, p, next => if a.holds p then next p else none
  | cat a b, p, next => a.run p fun q => b.run q next
  | alt a b, p, next =>
    match a.run p next with
    | some r => some r
    | none => b.run p next
  | group i a, p, next =>
    a.run p fun q =>
      next { q with groups := (i, Position.between p q) :: q.groups }
  | loop least most .greedy a, p, next =>
    rounds a.run least p fun q =>
      greedyRounds a.run next (extraRounds least q most) none q
  | loop least most .lazy a, p, next =>
    rounds a.run least p fun q =>
      lazyRounds a.run next (extraRounds least q most) none q
  | loop least most .possessive a, p, next =>
    match firstRounds a.run least p with
    | some q => next (possessiveRounds a.run (extraRounds least q most) none q)
    | none => none
  | atomic a, p, next =>
    match a.run p some with
    | some q => next q
    | none => none
  | again i folding, p, next =>
    match p.group? i with
    | some word =>
      match dropWord? folding word p with
      | some q => next q
      | none => none
    | none => none
  | ahead negated a, p, next =>
    match a.run p some, negated with
    | some q, false => next { p with groups := q.groups }
    | none, true => next p
    | _, _ => none
  | behind negated length a, p, next =>
    match (p.back? length).bind (a.run · some), negated with
    | some q, false => next { p with groups := q.groups }
    | none, true => next p
    | _, _ => none
  | ifGroup i yes no, p, next =>
    if (p.group? i).isSome then yes.run p next else no.run p next

/-- Whether a node matches a whole text. -/
def Node.matchesAll (n : Node) (text : List Char) : Bool :=
  (n.run (.start text) fun q => if q.after = [] then some q else none).isSome

end AccessRules.Regex
