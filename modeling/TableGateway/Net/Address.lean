import TableGateway.Text.Integer
import TableGateway.Text.Escaped

/-!
# Network addresses

Addresses of both families and sockets on them, read and written. An address of the long family is written
with its longest run of at least two zero groups as `::`, the first of equal ones, and an embedded short
address keeps its dots. Readers take what they read off the start of a text and leave the rest.
-/
namespace TableGateway

/-- An address of four bytes. -/
structure Ipv4 where
  bytes : List Nat
  length_bytes : bytes.length = 4
  deriving DecidableEq, Repr

/-- An address of eight groups of 16 bits. -/
structure Ipv6 where
  groups : List Nat
  length_groups : groups.length = 8
  deriving DecidableEq, Repr

inductive IpAddress where
  | v4 (address : Ipv4)
  | v6 (address : Ipv6)
  deriving DecidableEq, Repr

/-- An address with the number of a service on it; a long one may have a scope. -/
inductive SocketAddress where
  | v4 (address : Ipv4) (portNumber : Nat)
  | v6 (address : Ipv6) (scope portNumber : Nat)
  deriving DecidableEq, Repr

/-- The address of all interfaces. -/
def Ipv4.unspecified : Ipv4 := ⟨[0, 0, 0, 0], rfl⟩

/-! ## Writing -/

def Ipv4.text (a : Ipv4) : String :=
  ".".intercalate (a.bytes.map Nat.repr)

/-- The length of the run of zeros that a list starts with. -/
def zeroRun (groups : List Nat) : Nat :=
  (groups.takeWhile (· = 0)).length

/-- The longest run of zeros: its start and its length. -/
def longestZeros (start : Nat) : List Nat → Nat × Nat
  | [] => (start, 0)
  | g :: rest =>
    let here := zeroRun (g :: rest)
    let later := longestZeros (start + 1) rest
    if later.2 ≤ here then (start, here) else later

/-- Groups with colons between them. -/
def groupsText (groups : List Nat) : String :=
  ":".intercalate (groups.map hexText)

/-- The bytes of two groups. -/
def groupBytes (high low : Nat) : List Nat :=
  [high / 256, high % 256, low / 256, low % 256]

def Ipv6.text (a : Ipv6) : String :=
  match a.groups with
  | [0, 0, 0, 0, 0, 0xFFFF, high, low] => "::ffff:" ++ ".".intercalate ((groupBytes high low).map Nat.repr)
  | groups =>
    let (start, length) := longestZeros 0 groups
    if 1 < length then groupsText (groups.take start) ++ "::" ++ groupsText (groups.drop (start + length))
    else groupsText groups

def IpAddress.text : IpAddress → String
  | .v4 a => a.text
  | .v6 a => a.text

def SocketAddress.text : SocketAddress → String
  | .v4 a portNumber => a.text ++ ":" ++ portNumber.repr
  | .v6 a scope portNumber =>
    "[" ++ a.text ++ (if scope = 0 then "" else "%" ++ scope.repr) ++ "]:" ++ portNumber.repr

/-! ## Reading -/

/-- The value of a digit of a base up to sixteen. -/
def baseDigit? (base : Nat) (c : Char) : Option Nat :=
  let n := c.toNat
  let value :=
    if 0x30 ≤ n ∧ n ≤ 0x39 then some (n - 0x30)
    else if 0x41 ≤ n ∧ n ≤ 0x46 then some (n - 0x37)
    else if 0x61 ≤ n ∧ n ≤ 0x66 then some (n - 0x57)
    else none
  value.filter (· < base)

/-- Reads all digits at the start of a text, at least one: their number, their count, and the rest. -/
def digitsAt (base : Nat) (text : List Char) : Option (Nat × Nat × List Char) :=
  let digits := text.takeWhile fun c => (baseDigit? base c).isSome
  if digits = [] then none
  else some (digits.foldl (fun n c => base * n + (baseDigit? base c).getD 0) 0, digits.length,
    text.drop digits.length)

/-- Reads a byte, without needless zeros. -/
def byteAt (text : List Char) : Option (Nat × List Char) :=
  match digitsAt 10 text with
  | some (n, count, rest) =>
    if 3 < count ∨ (text.head? = some '0' ∧ 1 < count) ∨ 255 < n then none else some (n, rest)
  | none => none

def charAt (c : Char) : List Char → Option (List Char)
  | d :: rest => if c = d then some rest else none
  | [] => none

/-- Reads an address of four bytes. -/
def ipv4At (text : List Char) : Option (Ipv4 × List Char) := do
  let (a, text) ← byteAt text
  let text ← charAt '.' text
  let (b, text) ← byteAt text
  let text ← charAt '.' text
  let (c, text) ← byteAt text
  let text ← charAt '.' text
  let (d, text) ← byteAt text
  return (⟨[a, b, c, d], rfl⟩, text)

/-- Reads a group of up to four hexadecimal digits. -/
def groupAt (text : List Char) : Option (Nat × List Char) :=
  match digitsAt 16 text with
  | some (n, count, rest) => if 4 < count then none else some (n, rest)
  | none => none

/-- The text behind the colon that stands before all groups but the first. -/
def behindColon (isFirst : Bool) (text : List Char) : Option (List Char) :=
  if isFirst then some text else charAt ':' text

/-- Reads up to `room` groups, the last two of which may be a short address: the groups, whether they end
    in a short address, and the rest. -/
def groupsAt (isFirst : Bool) : (room : Nat) → List Char → List Nat × Bool × List Char
  | 0, text => ([], false, text)
  | room + 1, text =>
    let short := if room = 0 then none else (behindColon isFirst text).bind ipv4At
    match short with
    | some (a, rest) =>
      match a.bytes with
      | [p, q, r, s] => ([p * 256 + q, r * 256 + s], true, rest)
      | _ => ([], false, text)
    | none =>
      match (behindColon isFirst text).bind groupAt with
      | some (g, rest) =>
        let (groups, short, rest) := groupsAt false room rest
        (g :: groups, short, rest)
      | none => ([], false, text)

/-- The address of a list of groups, if there are eight. -/
def Ipv6.ofGroups? (groups : List Nat) : Option Ipv6 :=
  if length_groups : groups.length = 8 then some ⟨groups, length_groups⟩ else none

/-- Reads an address of eight groups, of which `::` may stand for at least one. -/
def ipv6At (text : List Char) : Option (Ipv6 × List Char) :=
  let (head, short, rest) := groupsAt true 8 text
  if head.length = 8 then (Ipv6.ofGroups? head).map fun a => (a, rest)
  else if short then none
  else
    match rest with
    | ':' :: ':' :: rest =>
      let (tail, _, rest) := groupsAt true (7 - head.length) rest
      let zeros := List.replicate (8 - head.length - tail.length) 0
      (Ipv6.ofGroups? (head ++ zeros ++ tail)).map fun a => (a, rest)
    | _ => none

/-- Reads a decimal number below `bound`. -/
def numberAt (bound : Nat) (text : List Char) : Option (Nat × List Char) :=
  match digitsAt 10 text with
  | some (n, _, rest) => if n < bound then some (n, rest) else none
  | none => none

/-- Reads the number of the service of a socket. -/
def portAt (text : List Char) : Option (Nat × List Char) :=
  (charAt ':' text).bind (numberAt UInt16.size)

/-- Reads the scope of a long address; it may be missing. -/
def scopeAt (text : List Char) : Option (Nat × List Char) :=
  match text with
  | '%' :: rest => numberAt UInt32.size rest
  | _ => some (0, text)

/-- Reads a socket on a short address. -/
def socketV4At (text : List Char) : Option (SocketAddress × List Char) := do
  let (a, text) ← ipv4At text
  let (portNumber, text) ← portAt text
  return (.v4 a portNumber, text)

/-- Reads a socket on a long address, which stands in brackets. -/
def socketV6At (text : List Char) : Option (SocketAddress × List Char) := do
  let text ← charAt '[' text
  let (a, text) ← ipv6At text
  let (scope, text) ← scopeAt text
  let text ← charAt ']' text
  let (portNumber, text) ← portAt text
  return (.v6 a scope portNumber, text)

/-- What a reader read, if it left nothing. -/
def whole {α : Type} : Option (α × List Char) → Option α
  | some (value, []) => some value
  | _ => none

def SocketAddress.ofText? (s : String) : Option SocketAddress :=
  whole (socketV4At s.toList) <|> whole (socketV6At s.toList)

def IpAddress.ofText? (s : String) : Option IpAddress :=
  (whole (ipv4At s.toList)).map .v4 <|> (whole (ipv6At s.toList)).map .v6

end TableGateway
