import AccessRules.Regex.Letter

/-!
# Regular expressions

The syntax tree of a regular expression, and the range of lengths of the texts
that it can match.

Groups are numbered from one.  A reference to a group matches the text that the
group matched last.
-/

namespace AccessRules.Regex

/-- Places in a text. -/
inductive Anchor where
  | textStart
  | lineStart
  | textEnd
  | lineEnd
  | lastLineEnd
  | boundary (inside asciiOnly : Bool)
deriving DecidableEq, Repr

/-- How many rounds a repetition prefers: as many as possible, as few as
possible, or as many as possible without ever giving one back. -/
inductive Greed where
  | greedy
  | lazy
  | possessive
deriving DecidableEq, Repr

/-- A regular expression. -/
inductive Node where
  | empty
  | test (t : CharTest)
  | anchor (a : Anchor)
  | cat (first second : Node)
  | alt (first second : Node)
  | group (index : Nat) (body : Node)
  | loop (least : Nat) (most : Option Nat) (greed : Greed) (body : Node)
  | atomic (body : Node)
  | again (index : Nat) (folding : Folding)
  | ahead (negated : Bool) (body : Node)
  | behind (negated : Bool) (length : Nat) (body : Node)
  | ifGroup (index : Nat) (yes no : Node)
deriving DecidableEq, Repr

/-- The least length of a text and the greatest one, if there is one. -/
structure Width where
  least : Nat
  most : Option Nat
deriving DecidableEq, Repr

namespace Width

/-- The larger of two bounds. -/
def maxBound : Option Nat → Option Nat → Option Nat
  | some m, some n => some (max m n)
  | _, _ => none

/-- The sum of two bounds. -/
def addBound : Option Nat → Option Nat → Option Nat
  | some m, some n => some (m + n)
  | _, _ => none

/-- The lengths of two texts in a row. -/
def append (v w : Width) : Width := ⟨v.least + w.least, addBound v.most w.most⟩

/-- The lengths of either of two texts. -/
def either (v w : Width) : Width :=
  ⟨min v.least w.least, maxBound v.most w.most⟩

/-- The lengths of repeated texts. -/
def times (v : Width) (least : Nat) : Option Nat → Width
  | some n => ⟨v.least * least, if n = 0 then some 0 else v.most.map (· * n)⟩
  | none => ⟨v.least * least, if v.most = some 0 then some 0 else none⟩

end Width

namespace Node

/-- Nodes in a row. -/
def sequence : List Node → Node
  | [] => empty
  | [n] => n
  | n :: ns => cat n (sequence ns)

/-- Nodes of which the first that leads to a match is taken. -/
def choice : List Node → Node
  | [] => empty
  | [n] => n
  | n :: ns => alt n (choice ns)

/-- The lengths of the texts that a node matches, given those of the groups that
it refers to. -/
def width (groups : Nat → Width) : Node → Width
  | empty | anchor _ | ahead .. | behind .. => ⟨0, some 0⟩
  | test _ => ⟨1, some 1⟩
  | cat a b => (width groups a).append (width groups b)
  | alt a b => (width groups a).either (width groups b)
  | group _ a | atomic a => width groups a
  | loop least most _ a => (width groups a).times least most
  | again i _ => groups i
  | ifGroup _ a b => (width groups a).either (width groups b)

/-- Lengths beyond this one are too long to look behind. -/
def farthestBehind : Nat := Nat.pow 2 32 - 1

/-- Whether each node that looks behind does so over one length. -/
def looksBehindEvenly (groups : Nat → Width) : Node → Bool
  | empty | anchor _ | test _ | again .. => true
  | cat a b | alt a b | ifGroup _ a b =>
    looksBehindEvenly groups a && looksBehindEvenly groups b
  | group _ a | atomic a | loop _ _ _ a | ahead _ a =>
    looksBehindEvenly groups a
  | behind _ length a =>
    (width groups a).least == length && (width groups a).most == some length &&
      length ≤ farthestBehind && looksBehindEvenly groups a

/-- Whether a node has a repetition in it. -/
def hasLoop : Node → Bool
  | empty | anchor _ | test _ | again .. => false
  | cat a b | alt a b | ifGroup _ a b => hasLoop a || hasLoop b
  | group _ a | atomic a | ahead _ a | behind _ _ a => hasLoop a
  | loop .. => true

end Node

end AccessRules.Regex
