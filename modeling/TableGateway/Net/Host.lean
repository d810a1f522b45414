import TableGateway.Net.Address
import TableGateway.Text.Percent

/-!
# Hosts

The host of a URL is an address or a name. URLs of the web know domains: their hosts are percent-decoded, have
no upper case, and one whose last part is a number must be an address, also in the old ways to write it. The
hosts of other URLs are taken as they are written.
-/
namespace TableGateway

inductive UrlHost where
  /-- The URL has no host. -/
  | none
  | name (text : List Char)
  | v4 (address : Ipv4)
  | v6 (address : Ipv6)
  deriving DecidableEq, Repr

/-- Why a text is no URL. -/
inductive UrlError where
  | relative
  | emptyHost
  | invalidPort
  | invalidShortAddress
  | invalidLongAddress
  | invalidHostCharacter
  | invalidDomain
  deriving DecidableEq, Repr

def UrlError.message : UrlError → String
  | .relative => "relative URL without a base"
  | .emptyHost => "empty host"
  | .invalidPort => "invalid port number"
  | .invalidShortAddress => "invalid IPv4 address"
  | .invalidLongAddress => "invalid IPv6 address"
  | .invalidHostCharacter => "invalid domain character"
  | .invalidDomain => "invalid international domain name"

namespace UrlHost

/-- Characters that no host has. -/
def isForbidden (c : Char) : Bool :=
  c ∈ ['\x00', ' ', '#', '/', ':', '<', '>', '?', '@', '[', '\\', ']', '^', '|']

/-- Characters that no domain has. -/
def isForbiddenInDomain (c : Char) : Bool :=
  isForbidden c || c = '%' || c.toNat < 0x20 || c = '\x7f' ||
    (0x80 ≤ c.toNat && (c = '\uFFFD' || inRanges unprintableRanges c))

/-! ## Addresses in the old ways -/

/-- A number of an address: hexadecimal behind `0x`, octal behind `0`, and zero if nothing follows these. -/
def addressNumber? (text : List Char) : Option Nat :=
  let read := fun (base : Nat) (digits : List Char) =>
    if digits = [] then some 0
    else
      match digitsAt base digits with
      | some (n, _, []) => some n
      | _ => Option.none
  match text with
  | [] => Option.none
  | '0' :: 'x' :: digits => read 16 digits
  | '0' :: 'X' :: digits => read 16 digits
  | '0' :: d :: digits => read 8 (d :: digits)
  | digits => read 10 digits

/-- The parts of a domain; an empty one at the end does not count. -/
def domainParts (domain : List Char) : List (List Char) :=
  let parts := pieces '.' domain
  if 1 < parts.length ∧ parts.getLast? = some [] then parts.dropLast else parts

/-- Holds when the last part of a domain is a number, so that the domain must be an address. -/
def endsInNumber (domain : List Char) : Bool :=
  match (domainParts domain).getLast? with
  | some part => (part ≠ [] && part.all Char.isDigit) || (addressNumber? part).isSome
  | Option.none => false

/-- The address of its numbers: all but the last stand for one byte each, the last for those that are left. -/
def addressOfNumbers? (numbers : List Nat) : Option Ipv4 :=
  match numbers.getLast? with
  | Option.none => Option.none
  | some last =>
    let bytes := numbers.dropLast
    if 3 < bytes.length ∨ bytes.any (255 < ·) ∨ Nat.pow 256 (4 - bytes.length) ≤ last then Option.none
    else
      let value := bytes.foldl (fun n byte => 256 * n + byte) 0 * Nat.pow 256 (4 - bytes.length) + last
      some ⟨[value / Nat.pow 256 3 % 256, value / Nat.pow 256 2 % 256, value / 256 % 256, value % 256], rfl⟩

/-- The address that a domain is. -/
def domainAddress? (domain : List Char) : Option Ipv4 :=
  ((domainParts domain).mapM addressNumber?).bind addressOfNumbers?

/-! ## Reading -/

/-- Reads a long address behind its opening bracket. -/
def ofBracketed (inner : List Char) : Except UrlError UrlHost :=
  if inner.getLast? = some ']' then
    match whole (ipv6At inner.dropLast) with
    | some a => .ok (.v6 a)
    | Option.none => .error .invalidLongAddress
  else .error .invalidLongAddress

/-- Reads a host that is taken as it is written; an empty one is none. -/
def ofText : List Char → Except UrlError UrlHost
  | [] => .ok .none
  | '[' :: inner => ofBracketed inner
  | text => if text.any isForbidden then .error .invalidHostCharacter else .ok (.name text)

/-- Reads a domain or an address. -/
def ofDomain : List Char → Except UrlError UrlHost
  | '[' :: inner => ofBracketed inner
  | text =>
    match percentText? (String.ofList text) with
    | Option.none => .error .invalidDomain
    | some decoded =>
      let domain := decoded.toList.map Char.toLower
      if domain.any isForbiddenInDomain then .error .invalidDomain
      else if domain = [] then .error .emptyHost
      else if endsInNumber domain then
        match domainAddress? domain with
        | some a => .ok (.v4 a)
        | Option.none => .error .invalidShortAddress
      else .ok (.name domain)

end UrlHost
end TableGateway
