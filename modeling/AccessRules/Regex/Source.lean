import AccessRules.Regex.Node

/-!
# The text of a regular expression

A pattern is read item by item: an item is a character, or a backslash with the
character behind it.  A backslash at the end of a pattern is an error as soon as
the item before it is taken.

A reader takes items from the front.  It also keeps track of the options that
hold for the whole pattern, of the groups opened so far and of their names.
-/

namespace AccessRules.Regex

/-- An item of a pattern. -/
inductive Item where
  | plain (c : Char)
  | escaped (c : Char)
  | dangling
deriving DecidableEq, Repr

/-- The items of a pattern. -/
def Item.ofChars : List Char → List Item
  | [] => []
  | ['\\'] => [dangling]
  | '\\' :: c :: cs => escaped c :: ofChars cs
  | c :: cs => plain c :: ofChars cs

/-- Why a pattern cannot be read: it breaks the rules of patterns, repeats too
often, has a number with too many digits, or asks both for ASCII and for Unicode
classes. -/
inductive Problem where
  | malformed
  | oversizedRepetition
  | oversizedNumber
  | conflictingFlags
deriving DecidableEq, Repr

/-- Options of a pattern or of a part of it. -/
structure Options where
  ignoreCase : Bool
  multiline : Bool
  dotAll : Bool
  verbose : Bool
  asciiOnly : Bool
deriving DecidableEq, Repr

/-- How letter case counts under the options. -/
def Options.folding (o : Options) : Folding :=
  if o.ignoreCase then (if o.asciiOnly then .ascii else .full) else .exact

/-- What is known after a part of a pattern was read.  A group has a width once
it is closed. -/
structure Progress where
  rest : List Item
  options : Options
  unicode : Bool
  templated : Bool
  widths : List (Option Width)
  names : List (List Char × Nat)
  conditions : List Nat
  behindGroups : Option Nat
deriving DecidableEq, Repr

/-- Reads an `α` from the front of a pattern. -/
abbrev Reader (α : Type) := StateT Progress (Except Problem) α

namespace Reader

/-- Ends the reading. -/
def fail (problem : Problem) : Reader α := throw problem

/-- Fails where the pattern breaks a rule. -/
def require (condition : Bool) : Reader Unit :=
  if condition then pure () else fail .malformed

/-- Goes on at the given items. -/
def proceed (rest : List Item) : Reader Unit :=
  match rest with
  | .dangling :: _ => fail .malformed
  | _ => modify fun s => { s with rest }

/-- The items that are left. -/
def rest : Reader (List Item) := do
  let s ← get
  pure s.rest

/-- Takes the next item. -/
def next : Reader Item := do
  match ← rest with
  | i :: is => do
    proceed is
    pure i
  | [] => fail .malformed

/-- Whether the next item is the character `c`; if so, it is taken. -/
def accept (c : Char) : Reader Bool := do
  match ← rest with
  | i :: is =>
    if i = .plain c then do
      proceed is
      pure true
    else
      pure false
  | [] => pure false

/-- Takes the character `c`. -/
def expect (c : Char) : Reader Unit := do
  require (← accept c)

/-- The characters of a kind at the front of some items, at most as many as the
first argument says. -/
def leading (kind : Char → Bool) : Nat → List Item → List Char × List Item
  | 0, items => ([], items)
  | n + 1, .plain c :: items =>
    if kind c then
      let (cs, more) := leading kind n items
      (c :: cs, more)
    else
      ([], .plain c :: items)
  | _ + 1, items => ([], items)

/-- Takes characters of a kind while they last, at most a given number of
them. -/
def takeUpTo (limit : Nat) (kind : Char → Bool) : Reader (List Char) := do
  let (cs, more) := leading kind limit (← rest)
  proceed more
  pure cs

/-- Takes characters of a kind while they last. -/
def takeWhile (kind : Char → Bool) : Reader (List Char) := do
  let items ← rest
  takeUpTo items.length kind

/-- The items up to a closing character, and those behind it. -/
def until? (closing : Char) : List Item → Option (List Item × List Item)
  | [] => none
  | i :: is =>
    if i = .plain closing then some ([], is)
    else (until? closing is).map fun (items, more) => (i :: items, more)

/-- The character of an item without a backslash. -/
def plain? : Item → Option Char
  | .plain c => some c
  | _ => none

/-- Takes a name up to a closing character. -/
def takeName (closing : Char) : Reader (List Char) := do
  match until? closing (← rest) with
  | none => fail .malformed
  | some (items, more) => do
    proceed more
    match items.mapM plain? with
    | some (c :: cs) => pure (c :: cs)
    | _ => fail .malformed

/-! ## Groups -/

/-- Opens a group and gives its number. -/
def openGroup (name : Option (List Char)) : Reader Nat := do
  let s ← get
  let index := s.widths.length + 1
  match name with
  | none => set { s with widths := s.widths ++ [none] }
  | some cs => do
    require (s.names.lookup cs).isNone
    set { s with widths := s.widths ++ [none], names := (cs, index) :: s.names }
  pure index

/-- The width of a group, if it is closed. -/
def widthOf? (widths : List (Option Width)) (index : Nat) : Option Width :=
  if index = 0 then none else (widths[index - 1]?).join

/-- The widths of groups where all that are asked for are closed. -/
def widthOf (widths : List (Option Width)) (index : Nat) : Width :=
  (widthOf? widths index).getD ⟨0, some 0⟩

/-- Closes a group. -/
def closeGroup (index : Nat) (body : Node) : Reader Unit :=
  modify fun s =>
    { s with
      widths := s.widths.set (index - 1)
        (some (body.width (widthOf s.widths))) }

/-- Refuses a reference from inside a look-behind to a group that is open or was
opened in there. -/
def requireOutside (index : Nat) : Reader Unit := do
  let s ← get
  match s.behindGroups with
  | none => pure ()
  | some limit => require ((widthOf? s.widths index).isSome && index ≤ limit)

/-- A reference to a closed group. -/
def reference (index : Nat) : Reader Nat := do
  let s ← get
  require (widthOf? s.widths index).isSome
  requireOutside index
  pure index

/-- The number of a named group. -/
def groupNamed (name : List Char) : Reader Nat := do
  let s ← get
  match s.names.lookup name with
  | some index => pure index
  | none => fail .malformed

end Reader

end AccessRules.Regex
