import AccessRules.Regex.Source
import AccessRules.Text.Blank
import AccessRules.Text.Identifier
import AccessRules.Text.Numeral
import AccessRules.Text.Split
import AccessRules.Text.Word

/-!
# What a parenthesis opens

Behind an opening parenthesis, a question mark announces everything other than a
numbered group: named groups and references to them, groups without a number,
look-ahead and look-behind, conditions on a group, options, and comments.

Options hold for the group that they open.  Closed at once, they hold for the
whole pattern, and stand at its start.
-/

namespace AccessRules.Regex

open Text

/-- What a parenthesis opens. -/
inductive Opening where
  | numbered (name : Option (List Char))
  | bare
  | atomic
  | ahead (negated : Bool)
  | behind (negated : Bool)
  | condition (index : Nat)
  | under (options : Options)
  | reference (index : Nat)
  | comment
  | global
deriving DecidableEq, Repr

/-- The letters of options. -/
inductive Flag where
  | ignoreCase
  | localeAware
  | multiline
  | dotAll
  | verbose
  | asciiOnly
  | template
  | unicode
deriving DecidableEq, Repr

namespace Flag

/-- The option with a letter. -/
def ofChar? (c : Char) : Option Flag :=
  if c = 'i' then some ignoreCase
  else if c = 'L' then some localeAware
  else if c = 'm' then some multiline
  else if c = 's' then some dotAll
  else if c = 'x' then some verbose
  else if c = 'a' then some asciiOnly
  else if c = 't' then some template
  else if c = 'u' then some unicode
  else none

/-- Whether an option chooses the classes of characters.  Only one such option
can be set at a time. -/
def isClassChoice : Flag → Bool
  | localeAware | asciiOnly | unicode => true
  | _ => false

/-- An option set or unset. -/
def apply (value : Bool) (o : Options) : Flag → Options
  | ignoreCase => { o with ignoreCase := value }
  | multiline => { o with multiline := value }
  | dotAll => { o with dotAll := value }
  | verbose => { o with verbose := value }
  | asciiOnly => { o with asciiOnly := value }
  | unicode => { o with asciiOnly := !value }
  | localeAware | template => o

/-- The letters of options up to another character, which is taken too.  There
is at least one letter. -/
def readAll : Nat → List Flag → Reader (List Flag × Item)
  | 0, _ => Reader.fail .malformed
  | fuel + 1, flags => do
    let i ← Reader.next
    match (Reader.plain? i).bind ofChar? with
    | some f => readAll fuel (flags ++ [f])
    | none => do
      Reader.require !flags.isEmpty
      pure (flags, i)

/-- Whether options can be set together. -/
def areCompatible (flags : List Flag) : Bool :=
  !flags.contains localeAware &&
    !(flags.contains asciiOnly && flags.contains unicode)

end Flag

namespace Opening

/-- Sets options for the whole pattern. -/
def setGlobally (flags : List Flag) : Reader Unit :=
  modify fun s => { s with
    options := (flags.filter (· != .unicode)).foldl (Flag.apply true) s.options
    unicode := s.unicode || flags.contains .unicode
    templated := s.templated || flags.contains .template }

/-- Options for one group, given those around it. -/
def scopedOptions (around : Options) (added removed : List Flag) : Options :=
  removed.foldl (Flag.apply false) (added.foldl (Flag.apply true) around)

/-- Reads the options that are taken away, behind the hyphen. -/
def readRemoved (around : Options) (added : List Flag) : Reader Opening := do
  let items ← Reader.rest
  let (removed, i) ← Flag.readAll (items.length + 1) []
  Reader.require (i = .plain ':')
  Reader.require !(removed.any Flag.isClassChoice)
  Reader.require !((added ++ removed).contains .template)
  Reader.require !(added.any removed.contains)
  pure (under (scopedOptions around added removed))

/-- Reads options from their first letter on. -/
def readFlags (around : Options) : Reader Opening := do
  if ← Reader.accept '-' then
    readRemoved around []
  else
    let items ← Reader.rest
    let (added, i) ← Flag.readAll (items.length + 1) []
    Reader.require (Flag.areCompatible added)
    if i = .plain ')' then
      setGlobally added
      pure global
    else
      Reader.require !(added.contains .template)
      if i = .plain '-' then
        readRemoved around added
      else
        Reader.require (i = .plain ':')
        pure (under (scopedOptions around added []))

/-- A decimal number as users may write it: with blanks around it, a plus sign,
digits of any script, and single underscores between them. -/
def numberOf? (cs : List Char) : Option Nat :=
  let blank := if cs.all (·.toNat < 128) then isAsciiBlank else isBlank
  let cs := ((cs.dropWhile blank).reverse.dropWhile blank).reverse
  let cs := if cs.head? = some '+' then cs.drop 1 else cs
  let runs := splitAt '_' cs
  if runs.all (fun run => !run.isEmpty && run.all isDecimal) &&
      runs.flatten.length ≤ mostDigits then
    some (runs.flatten.foldl (fun n c => 10 * n + decimalValue c) 0)
  else
    none

/-- Reads a condition on a group, given by its name or its number. -/
def readCondition : Reader Opening := do
  let name ← Reader.takeName ')'
  if isIdentifier name then
    let index ← Reader.groupNamed name
    Reader.requireOutside index
    pure (condition index)
  else
    match numberOf? name with
    | some (n + 1) => do
      modify fun s => { s with conditions := (n + 1) :: s.conditions }
      Reader.requireOutside (n + 1)
      pure (condition (n + 1))
    | _ => Reader.fail .malformed

/-- Reads a name behind an angle bracket, or a reference behind an equals
sign. -/
def readNamed : Reader Opening := do
  if ← Reader.accept '<' then
    let name ← Reader.takeName '>'
    Reader.require (isIdentifier name)
    pure (numbered (some name))
  else
    Reader.expect '='
    let name ← Reader.takeName ')'
    Reader.require (isIdentifier name)
    let index ← Reader.reference (← Reader.groupNamed name)
    pure (reference index)

/-- Whether a look-around is negated: an equals sign means no, an exclamation
mark yes. -/
def readNegated : Reader Bool := do
  if ← Reader.accept '=' then
    pure false
  else
    Reader.expect '!'
    pure true

/-- Skips a comment. -/
def skipComment : Reader Opening := do
  match Reader.until? ')' (← Reader.rest) with
  | none => Reader.fail .malformed
  | some (_, more) => do
    Reader.proceed more
    pure comment

/-- Reads what stands behind an opening parenthesis up to the body of the
group. -/
def read (around : Options) : Reader Opening := do
  if !(← Reader.accept '?') then
    pure (numbered none)
  else if ← Reader.accept 'P' then
    readNamed
  else if ← Reader.accept ':' then
    pure bare
  else if ← Reader.accept '#' then
    skipComment
  else if ← Reader.accept '<' then
    pure (behind (← readNegated))
  else if ← Reader.accept '(' then
    readCondition
  else if ← Reader.accept '>' then
    pure atomic
  else
    match ← Reader.rest with
    | .plain c :: _ =>
      if c = '=' || c = '!' then
        pure (ahead (← readNegated))
      else
        readFlags around
    | _ => Reader.fail .malformed

end Opening

end AccessRules.Regex
