import AccessRules.Text.Numeral
import AccessRules.Text.Split

/-!
# Network addresses

Addresses of the two versions of the Internet protocol, read from their texts
and written back.

An address of version 4 is four decimal numbers up to 255 without leading zeros,
with points between them.  An address of version 6 is eight hexadecimal groups
of at most four digits with colons between them.  The last two groups may be
written as an address of version 4, and one run of zero groups may be left out
between two colons in a row.  Behind a percent sign it may name the zone in
which it holds.

Version 6 is written in lower case with the first longest run of at least two
zero groups left out.
-/

namespace AccessRules.Network

/-- A version of the Internet protocol. -/
inductive Version where
  | v4
  | v6
deriving DecidableEq, Repr

/-- The number of a version. -/
def Version.number : Version → Nat
  | v4 => 4
  | v6 => 6

/-- The number of bits in an address. -/
def Version.width : Version → Nat
  | v4 => 32
  | v6 => 128

/-- An address, as the number that its bits form. -/
structure Address where
  version : Version
  value : Nat
  zone : Option (List Char)
deriving DecidableEq, Repr

/-! ## Version 4 -/

/-- One of the four numbers of an address. -/
def octet? (cs : List Char) : Option Nat :=
  let n := Text.ofDigits 10 cs
  if cs.all Char.isDigit ∧ 0 < cs.length ∧ cs.length ≤ 3 ∧
      (cs.head? = some '0' → cs.length = 1) ∧ n < 256 then
    some n
  else
    none

/-- The number whose digits in a base are the given ones. -/
def assemble (base : Nat) (digits : List Nat) : Nat :=
  digits.foldl (fun n d => base * n + d) 0

/-- The number of an address of version 4. -/
def v4Value? (cs : List Char) : Option Nat :=
  match (Text.splitAt '.' cs).mapM octet? with
  | some [a, b, c, d] => some (assemble 256 [a, b, c, d])
  | _ => none

/-- The text of an address of version 4. -/
def v4Text (n : Nat) : List Char :=
  Text.joinWith '.'
    ([n / Nat.pow 2 24, n / Nat.pow 2 16 % 256, n / Nat.pow 2 8 % 256,
      n % 256].map (Nat.toDigits 10))

/-! ## Version 6 -/

/-- One of the eight groups of an address. -/
def group? (cs : List Char) : Option Nat :=
  if cs.all Text.isHexDigit ∧ 0 < cs.length ∧ cs.length ≤ 4 then
    some (Text.ofDigits 16 cs)
  else none

/-- The pieces between colons, with an address of version 4 at the end written
as two groups. -/
def expandTail (pieces : List (List Char)) : Option (List (List Char)) :=
  match pieces.getLast? with
  | none => some pieces
  | some last =>
    if last.contains '.' then
      (v4Value? last).map fun n =>
        pieces.dropLast ++
          [Nat.toDigits 16 (n / Nat.pow 2 16),
            Nat.toDigits 16 (n % Nat.pow 2 16)]
    else
      some pieces

/-- The places of empty pieces, the first and the last piece apart. -/
def gaps (pieces : List (List Char)) : List Nat :=
  (List.range pieces.length).filter fun i =>
    0 < i && i + 1 < pieces.length && pieces[i]? == some []

/-- The groups on one side of a gap.  An empty piece at the outer end belongs to
a gap that reaches it. -/
def side? (pieces : List (List Char)) : Option (List Nat) :=
  if pieces = [[]] then some [] else pieces.mapM group?

/-- The eight groups of an address, from its pieces. -/
def groups? (pieces : List (List Char)) : Option (List Nat) :=
  match gaps pieces with
  | [] => if pieces.length = 8 then pieces.mapM group? else none
  | [i] =>
    match side? (pieces.take i), side? (pieces.drop (i + 1)) with
    | some high, some low =>
      if high.length + low.length < 8 then
        some (high ++ List.replicate (8 - high.length - low.length) 0 ++ low)
      else
        none
    | _, _ => none
  | _ => none

/-- The number of an address of version 6 without a zone. -/
def v6Value? (cs : List Char) : Option Nat :=
  let pieces := Text.splitAt ':' cs
  if pieces.length < 3 then none
  else
    match expandTail pieces with
    | some pieces => (groups? pieces).map (assemble 65536)
    | none => none

/-- The groups of an address of version 6. -/
def groupsOf (n : Nat) : List Nat :=
  (List.range 8).map fun i => n / Nat.pow 65536 (7 - i) % 65536

/-- The start and length of the first longest run of zeros in a list that begins
at place `i`. -/
def longestZeros (i : Nat) : List Nat → Nat × Nat
  | [] => (i, 0)
  | g :: gs =>
    let here := ((g :: gs).takeWhile (· == 0)).length
    let (start, length) := longestZeros (i + 1) gs
    if length ≤ here then (i, here) else (start, length)

/-- Groups in hexadecimal with colons between them. -/
def groupText (gs : List Nat) : List Char :=
  Text.joinWith ':' (gs.map (Nat.toDigits 16))

/-- The text of an address of version 6 without a zone. -/
def v6Text (n : Nat) : List Char :=
  let gs := groupsOf n
  let (start, length) := longestZeros 0 gs
  if length < 2 then groupText gs
  else groupText (gs.take start) ++
    ':' :: ':' :: groupText (gs.drop (start + length))

/-! ## Both versions -/

/-- An address and the zone behind its percent sign. -/
def splitZone? (cs : List Char) : Option (List Char × Option (List Char)) :=
  match Text.splitAt '%' cs with
  | [_] => some (cs, none)
  | [address, zone] => if zone = [] then none else some (address, some zone)
  | _ => none

/-- The address of version 6 that a text is. -/
def v6? (cs : List Char) : Option Address :=
  match splitZone? cs with
  | some (address, zone) => (v6Value? address).map fun n => ⟨.v6, n, zone⟩
  | none => none

/-- The address of version 4 that a text is. -/
def v4? (cs : List Char) : Option Address :=
  (v4Value? cs).map fun n => ⟨.v4, n, none⟩

/-- The address that a text is.  A zone has no slash. -/
def Address.ofText? (cs : List Char) : Option Address :=
  if cs.contains '/' then none
  else
    match v4? cs with
    | some a => some a
    | none => v6? cs

/-- The text of an address. -/
def Address.text (a : Address) : List Char :=
  match a.version with
  | .v4 => v4Text a.value
  | .v6 =>
    v6Text a.value ++
      (match a.zone with | some zone => '%' :: zone | none => [])

end AccessRules.Network
