import TableGateway.Text.Escaped

/-!
# Binary values

Cells hold numbers with the highest byte first. A signed number of any length up to eight bytes is taken
where it fits the type (`integer?`).
-/
namespace TableGateway.Cell

/-- The natural number that bytes write, the highest first. -/
def natural (bytes : List UInt8) : Nat :=
  bytes.foldl (fun n b => 256 * n + b.toNat) 0

/-- The signed number of a word of so many bits. -/
def signed (bits n : Nat) : Int :=
  if n < Nat.pow 2 (bits - 1) then n else (n : Int) - Nat.pow 2 bits

/-- The signed number of one to eight bytes, if it fits so many bits. -/
def integer? (bits : Nat) (bytes : List UInt8) : Option Int :=
  if bytes = [] ∨ 8 < bytes.length then none
  else
    let n := signed (8 * bytes.length) (natural bytes)
    if -(Nat.pow 2 (bits - 1) : Int) ≤ n ∧ n < Nat.pow 2 (bits - 1) then some n else none

/-- Takes so many bytes off the front, if there are so many. -/
def takeBytes? (count : Nat) (bytes : List UInt8) : Option (List UInt8 × List UInt8) :=
  if bytes.length < count then none else some (bytes.take count, bytes.drop count)

/-- Takes a signed number of so many bytes off the front. -/
def takeSigned? (count : Nat) (bytes : List UInt8) : Option (Int × List UInt8) :=
  (takeBytes? count bytes).map fun (front, rest) => (signed (8 * count) (natural front), rest)

/-- Two hexadecimal digits for each byte. -/
def hexChars (bytes : List UInt8) : List Char :=
  bytes.flatMap fun b => [Nat.digitChar (b.toNat / 16), Nat.digitChar (b.toNat % 16)]

def bytesText (bytes : List UInt8) : String :=
  String.ofList ('\\' :: 'x' :: hexChars bytes)

/-- The text of an identifier of sixteen bytes, in five groups. -/
def uuidText (bytes : List UInt8) : String :=
  let digits := hexChars bytes
  let group := fun start length => String.ofList ((digits.drop start).take length)
  "-".intercalate [group 0 8, group 8 4, group 12 4, group 16 4, group 20 12]

end TableGateway.Cell
