import TableGateway.Cell.Binary
import TableGateway.Net.Address

/-!
# Network addresses in cells

The bytes give the family, the number of bits of the network, whether it is one, the length of the address,
and the address. The bits are shown unless they are all and the cell is no network.
-/
namespace TableGateway.Cell

/-- The address of four bytes. -/
def ipv4? (bytes : List UInt8) : Option Ipv4 :=
  if length_bytes : (bytes.map UInt8.toNat).length = 4 then some ⟨bytes.map UInt8.toNat, length_bytes⟩
  else none

/-- The groups of two bytes each. -/
def groupsOf : List UInt8 → List Nat
  | high :: low :: rest => natural [high, low] :: groupsOf rest
  | _ => []

/-- The address of a family with the bits that it has. -/
def address? (family : UInt8) (bytes : List UInt8) : Option (IpAddress × Nat) :=
  if family = 2 then (ipv4? bytes).map fun a => (.v4 a, 32)
  else if family = 3 ∧ bytes.length = 16 then (Ipv6.ofGroups? (groupsOf bytes)).map fun a => (.v6 a, 128)
  else none

/-- The text of the bytes of a network address. -/
def networkText? : List UInt8 → Option String
  | family :: bits :: isNetwork :: _ :: bytes =>
    (address? family bytes).map fun (address, all) =>
      if bits.toNat = all ∧ isNetwork = 0 then address.text else address.text ++ "/" ++ bits.toNat.repr
  | _ => none

end TableGateway.Cell
