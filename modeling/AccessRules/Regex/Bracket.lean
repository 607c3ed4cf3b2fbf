import AccessRules.Regex.Escape

/-!
# Sets in brackets

A set lists characters, ranges and classes between brackets.  A closing bracket
at its start stands for itself, and so does a hyphen at either end.  A set of
one character is a test for that letter.
-/

namespace AccessRules.Regex

namespace Member

/-- The member that an escape names. -/
def ofEscape? (asciiOnly : Bool) : Escape → Option Member
  | .letter n => some (single n)
  | .category k negated => some (category k negated asciiOnly)
  | _ => none

/-- The member that an item of a set begins with. -/
def read (asciiOnly : Bool) (i : Item) : Reader Member :=
  match i with
  | .plain c => pure (single c.toNat)
  | .escaped c => do
    match ofEscape? asciiOnly (← Escape.readInSet c) with
    | some m => pure m
    | none => Reader.fail .malformed
  | .dangling => Reader.fail .malformed

/-- The range between two members. -/
def rangeBetween : Member → Member → Reader Member
  | single lo, single hi => do
    Reader.require (lo ≤ hi)
    pure (range lo hi)
  | _, _ => Reader.fail .malformed

/-- The members up to the closing bracket, behind those that were read before.
Every round takes an item. -/
def readAll (asciiOnly : Bool) : Nat → List Member → Reader (List Member)
  | 0, _ => Reader.fail .malformed
  | fuel + 1, members => do
    let i ← Reader.next
    if i = .plain ']' && !members.isEmpty then
      pure members
    else
      let first ← read asciiOnly i
      if ← Reader.accept '-' then
        let j ← Reader.next
        if j = .plain ']' then
          pure (members ++ [first, single '-'.toNat])
        else
          let second ← read asciiOnly j
          let range ← rangeBetween first second
          readAll asciiOnly fuel (members ++ [range])
      else
        readAll asciiOnly fuel (members ++ [first])

/-- The members of a list without repetitions, in the order of their first
occurrences. -/
def distinct (members : List Member) : List Member :=
  members.foldl (fun done m => if done.contains m then done else done ++ [m]) []

end Member

/-- The test for a set. -/
def CharTest.ofSet (negated : Bool) (members : List Member)
    (folding : Folding) : CharTest :=
  match Member.distinct members with
  | [.single n] => letter negated n folding
  | ms => oneOf negated ms folding

/-- Reads a set behind its opening bracket. -/
def CharTest.readSet (options : Options) : Reader CharTest := do
  let negated ← Reader.accept '^'
  let items ← Reader.rest
  let members ← Member.readAll options.asciiOnly (items.length + 1) []
  pure (ofSet negated members options.folding)

end AccessRules.Regex
