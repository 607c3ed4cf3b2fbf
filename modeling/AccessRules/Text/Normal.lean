import AccessRules.Text.Normal.Data

/-!
# Normal form of names

Two spellings of a name are one name when their compatibility normal forms
agree: every character is taken apart, marks are put in the order of their
classes, and pairs that have a composed character are composed again.
Full-width letters and ligatures become the plain ones in this way.
-/

namespace AccessRules.Text

/-- The combining class of a code point; letters have class zero. -/
def markClass (c : Nat) : Nat :=
  match markClasses.find? c with
  | some [n] => n
  | _ => 0

/-- The full compatibility decomposition of a code point.  Hangul syllables are
taken apart by their place in the syllable block. -/
def decompose (c : Nat) : List Nat :=
  if 0xac00 ≤ c ∧ c ≤ 0xd7a3 then
    let s := c - 0xac00
    let lead := 0x1100 + s / 588
    let vowel := 0x1161 + s % 588 / 28
    if s % 28 = 0 then [lead, vowel] else [lead, vowel, 0x11a7 + s % 28]
  else
    (decompositions.find? c).getD [c]

/-- The composed character of a pair. -/
def compose? (a b : Nat) : Option Nat :=
  if 0x1100 ≤ a ∧ a ≤ 0x1112 ∧ 0x1161 ≤ b ∧ b ≤ 0x1175 then
    some (0xac00 + ((a - 0x1100) * 21 + (b - 0x1161)) * 28)
  else if 0xac00 ≤ a ∧ a ≤ 0xd7a3 ∧ (a - 0xac00) % 28 = 0 ∧ 0x11a8 ≤ b ∧
      b ≤ 0x11c2 then
    some (a + (b - 0x11a7))
  else
    match compositions.find? (pairKey a b) with
    | some [c] => some c
    | _ => none

/-- Puts a mark behind the marks of the same or a lower class that end a
reversed text. -/
def insertMark (c : Nat) : List Nat → List Nat
  | [] => [c]
  | d :: ds =>
    if markClass c < markClass d then d :: insertMark c ds else c :: d :: ds

/-- Puts every run of marks in the order of their classes. -/
def orderMarks (cs : List Nat) : List Nat :=
  let step : List Nat → Nat → List Nat := fun done c =>
    if markClass c = 0 then c :: done else insertMark c done
  (cs.foldl step []).reverse

/-- A text under composition: what is finished, the last letter, and the marks
behind it; the last two are in reverse order. -/
structure Composing where
  done : List Nat
  letter : Option Nat
  marks : List Nat

/-- Takes one more code point into a composition.  A mark meets the letter
unless a mark of the same or a higher class stands between them. -/
def Composing.step (s : Composing) (c : Nat) : Composing :=
  let free := match s.marks with
    | [] => true
    | m :: _ => markClass m < markClass c
  let joined := if free then s.letter.bind (compose? · c) else none
  match joined with
  | some composed => { s with letter := some composed }
  | none =>
    if markClass c = 0 then
      ⟨s.marks ++ s.letter.toList ++ s.done, some c, []⟩
    else
      { s with marks := c :: s.marks }

/-- Composes every pair that has a composed character. -/
def compose (cs : List Nat) : List Nat :=
  let last := cs.foldl Composing.step ⟨[], none, []⟩
  (last.marks ++ last.letter.toList ++ last.done).reverse

/-- The compatibility normal form of a name. -/
def normalForm (cs : List Char) : List Char :=
  if cs.all (·.toNat < 128) then cs
  else (compose (orderMarks ((cs.map Char.toNat).flatMap decompose))).map
    Char.ofNat

end AccessRules.Text
