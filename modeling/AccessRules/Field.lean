import AccessRules.Value

/-!
# Checked fields

Records are built from loosely typed values, field by field.  Every field is
checked on its own, and a record with bad fields is refused with all its errors,
in the order of its fields.

A lenient truth value may be written as a number or a word.  A strict one may
not.
-/

namespace AccessRules

/-- Why a field was refused. -/
inductive FieldProblem where
  | notText
  | notTruth
  | unreadableTruth
  | notSet
  | tooShort
deriving DecidableEq, Repr

/-- A refused field; members of a set are counted from zero. -/
structure FieldError where
  field : String
  member : Option Nat
  problem : FieldProblem
deriving DecidableEq, Repr

namespace Field

/-- The outcome of checking one field. -/
abbrev Checked (α : Type) := Except (List FieldError) α

/-- An error of a whole field. -/
def refuse (field : String) (problem : FieldProblem) : Checked α :=
  .error [⟨field, none, problem⟩]

/-- The given value, or a default where the field is absent. -/
def withDefault (default : α) (check : Value → Checked α) :
    Option Value → Checked α
  | none => .ok default
  | some v => check v

/-- A text. -/
def text (field : String) : Value → Checked String
  | .text s => .ok s
  | _ => refuse field .notText

/-- A text or null. -/
def optionalText (field : String) : Value → Checked (Option String)
  | .null => .ok none
  | v => (text field v).map some

/-- A text that is not empty. -/
def nonemptyText (field : String) (v : Value) : Checked String := do
  let s ← text field v
  if s = "" then refuse field .tooShort else pure s

/-- A truth value and nothing else. -/
def strictTruth (field : String) : Value → Checked Bool
  | .bool b => .ok b
  | _ => refuse field .notTruth

/-- The words for true. -/
def trueWords : List String := ["1", "t", "y", "on", "yes", "true"]

/-- The words for false. -/
def falseWords : List String := ["0", "f", "n", "off", "no", "false"]

/-- The truth value that a word means, in any case of its letters. -/
def truthOfWord? (s : String) : Option Bool :=
  let word := String.ofList (s.toList.map Char.toLower)
  if trueWords.contains word then some true
  else if falseWords.contains word then some false
  else none

/-- Numbers of at least this size are never taken for an attempt at a truth
value. -/
def truthLimit : Nat := Nat.pow 2 63

/-- A truth value, a word for one, or the number one or zero. -/
def lenientTruth (field : String) : Value → Checked Bool
  | .bool b => .ok b
  | .text s =>
    match truthOfWord? s with
    | some b => .ok b
    | none => refuse field .unreadableTruth
  | .int n =>
    if n = 1 then .ok true
    else if n = 0 then .ok false
    else if -truthLimit ≤ n ∧ n < truthLimit then refuse field .unreadableTruth
    else refuse field .notTruth
  | .real negative x =>
    if x.isZero then .ok false
    else if !negative && x.equalsNat 1 then .ok true
    else if x.isWhole && !x.exceedsNat (truthLimit - 1) then
      refuse field .unreadableTruth
    else refuse field .notTruth
  | _ => refuse field .notTruth

/-- The members of a list that are texts, and the errors of the others. -/
def membersFrom (field : String) :
    Nat → List Value → List String × List FieldError
  | _, [] => ([], [])
  | i, v :: vs =>
    let (texts, errors) := membersFrom field (i + 1) vs
    match v with
    | .text s => (s :: texts, errors)
    | _ => (texts, ⟨field, some i, .notText⟩ :: errors)

/-- A list of texts. -/
def textSet (field : String) : Value → Checked (List String)
  | .list vs =>
    match membersFrom field 0 vs with
    | (texts, []) => .ok texts
    | (_, errors) => .error errors
  | _ => refuse field .notSet

/-- A function applied to the outcome of a check; the errors of both are
collected in order. -/
def apply (f : Checked (α → β)) (x : Checked α) : Checked β :=
  match f, x with
  | .ok f, .ok a => .ok (f a)
  | .ok _, .error es => .error es
  | .error es, .ok _ => .error es
  | .error es, .error fs => .error (es ++ fs)

end Field

end AccessRules
