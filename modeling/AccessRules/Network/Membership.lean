import AccessRules.Fault
import AccessRules.Network.Subnet
import AccessRules.Text.Blank

/-!
# Clients in subnets

A subnet expression is the text of an address or of a subnet, with blanks around
it.  A client belongs to the subnet if the address that its text is has the
version of the subnet and lies in it.  A text that is no address belongs to no
subnet.
-/

namespace AccessRules.Network

/-- The subnet that an expression describes. -/
def subnetOf (expression : String) : Except Fault Subnet :=
  let cs := Text.strip expression.toList
  if cs = [] then .error .emptyAddress
  else
    match Subnet.ofText? cs with
    | some s => .ok s
    | none => .error (.invalidAddress expression)

/-- The subnet that a byte string describes: one address, given by its bytes. -/
def subnetOfBytes (bytes : List UInt8) : Except Fault Subnet :=
  let isBlank (b : UInt8) : Bool := Text.isAsciiBlank (Char.ofNat b.toNat)
  let bs := ((bytes.dropWhile isBlank).reverse.dropWhile isBlank).reverse
  if bs = [] then .error .emptyAddress
  else
    match Subnet.ofBytes? bs with
    | some s => .ok s
    | none => .error (.invalidAddressBytes bytes)

/-- Whether the text of a client address belongs to a subnet. -/
def Subnet.admits (s : Subnet) (client : String) : Bool :=
  match Address.ofText? (Text.strip client.toList) with
  | some a => s.contains a
  | none => false

end AccessRules.Network
