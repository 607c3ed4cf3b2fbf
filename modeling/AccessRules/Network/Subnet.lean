import AccessRules.Network.Address

/-!
# Subnets

A subnet is the set of all addresses of one version that share their first bits.
It is written as an address and the number of these bits behind a slash; an
address alone is the subnet of itself.  Bits behind the common ones are ignored.
For version 4, the number of common bits may also be given as a mask: an address
whose bits are ones followed by zeros, or zeros followed by ones.
-/

namespace AccessRules.Network

/-- The addresses of one version whose first `length` bits are those of
`base`. -/
structure Subnet where
  version : Version
  base : Nat
  length : Nat
  zone : Option (List Char)
deriving DecidableEq, Repr

/-- The number of common bits given by a decimal numeral of a readable
length. -/
def lengthOfNumber? (width : Nat) (cs : List Char) : Option Nat :=
  let n := Text.ofDigits 10 cs
  if cs.all Char.isDigit ∧ 0 < cs.length ∧ cs.length ≤ Text.mostDigits ∧
      n ≤ width then some n else none

/-- The number of ones in front of the zeros, for a mask of ones followed by
zeros. -/
def lengthOfMask? (width mask : Nat) : Option Nat :=
  (List.range (width + 1)).find? fun n =>
    mask == Nat.pow 2 width - Nat.pow 2 (width - n)

/-- The number of common bits given behind the slash. -/
def length? (version : Version) (cs : List Char) : Option Nat :=
  match lengthOfNumber? version.width cs with
  | some n => some n
  | none =>
    match version with
    | .v6 => none
    | .v4 =>
      match v4Value? cs with
      | none => none
      | some mask =>
        match lengthOfMask? 32 mask with
        | some n => some n
        | none => lengthOfMask? 32 (Nat.pow 2 32 - 1 - mask)

namespace Subnet

/-- The subnet of the addresses that share the first `length` bits with an
address.  The zone is dropped where the address has other bits behind the common
ones. -/
def around (a : Address) (length : Nat) : Subnet :=
  let unit := Nat.pow 2 (a.version.width - length)
  let base := a.value / unit * unit
  ⟨a.version, base, length, if base = a.value then a.zone else none⟩

/-- The subnet around the address that a reader finds in a text, for one
version. -/
def ofParts? (version : Version) (address? : List Char → Option Address)
    (cs : List Char) : Option Subnet :=
  match Text.splitAt '/' cs with
  | [address] => (address? address).map fun a => around a version.width
  | [address, length] =>
    match address? address, length? version length with
    | some a, some n => some (around a n)
    | _, _ => none
  | _ => none

/-- The subnet that a text is. -/
def ofText? (cs : List Char) : Option Subnet :=
  match ofParts? .v4 v4? cs with
  | some s => some s
  | none => ofParts? .v6 v6? cs

/-- The subnet of one address, given by its bytes. -/
def ofBytes? (bytes : List UInt8) : Option Subnet :=
  let value := assemble 256 (bytes.map (·.toNat))
  if bytes.length = 4 then some (around ⟨.v4, value, none⟩ 32)
  else if bytes.length = 16 then some (around ⟨.v6, value, none⟩ 128)
  else none

/-- The text of a subnet. -/
def text (s : Subnet) : List Char :=
  Address.text ⟨s.version, s.base, s.zone⟩ ++ '/' :: Nat.toDigits 10 s.length

/-- Whether an address belongs to a subnet. -/
def contains (s : Subnet) (a : Address) : Bool :=
  let unit := Nat.pow 2 (s.version.width - s.length)
  a.version == s.version && a.value / unit == s.base / unit

end Subnet

end AccessRules.Network
