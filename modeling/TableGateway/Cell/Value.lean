import TableGateway.Cell.Calendar
import TableGateway.Cell.Interval
import TableGateway.Cell.Network
import TableGateway.Cell.Numeric
import TableGateway.Json.Reader
import TableGateway.Text.Utf8

/-!
# Values of cells

A cell is read as its column's type says (`decode?`). Bytes that are no value of the type, and those of all
other types, are read as text; without a text there is no value.
-/
namespace TableGateway.Cell

def text? (bytes : List UInt8) : Option Json :=
  (utf8Text? bytes).map .string

def bool? : List UInt8 → Option Json
  | b :: _ => some (.bool (b ≠ 0))
  | [] => none

/-- An integer of so many bits. -/
def int? (bits : Nat) (bytes : List UInt8) : Option Json :=
  (integer? bits bytes).map .ofInt

/-- A binary number of 32 bits. -/
def float32? (bytes : List UInt8) : Option Json :=
  if bytes.length = 4 then some (.ofFloat? (Binary64.ofWord32? (natural bytes))) else none

/-- A binary number of 64 bits. -/
def float64? (bytes : List UInt8) : Option Json :=
  if bytes.length = 8 then some (.ofFloat? (Binary64.ofWord? (natural bytes))) else none

/-- An identifier of sixteen bytes. -/
def uuid? (bytes : List UInt8) : Option Json :=
  if bytes.length = 16 then some (.string (uuidText bytes)) else none

def document? (bytes : List UInt8) : Option Json :=
  (utf8Text? bytes).bind Json.read?

/-- A document behind the number of its version. -/
def versionedDocument? : List UInt8 → Option Json
  | 1 :: bytes => document? bytes
  | _ => none

/-- Takes an element off the front: its length, which is -1 for NULL, and its bytes. -/
def takeElement? (bytes : List UInt8) : Option (Option (List UInt8) × List UInt8) := do
  let (length, bytes) ← takeSigned? 4 bytes
  if length = -1 then return (none, bytes)
  else if length < 0 then none
  else
    let (element, bytes) ← takeBytes? length.toNat bytes
    return (some element, bytes)

/-- Takes so many elements off the front, and reads them. -/
def elements? (read : List UInt8 → Option Json) : (count : Nat) → List UInt8 → Option (List Json)
  | 0, _ => some []
  | count + 1, bytes => do
    let (element, bytes) ← takeElement? bytes
    let value ← match element with
      | none => some .null
      | some bytes => read bytes
    return value :: (← elements? read count bytes)

/-- An array of one dimension that starts at 1, or of none. -/
def array? (read : List UInt8 → Option Json) (bytes : List UInt8) : Option Json := do
  let (dimensions, bytes) ← takeSigned? 4 bytes
  if dimensions = 0 then return .array []
  else if dimensions ≠ 1 then none
  else
    let (_, bytes) ← takeBytes? 8 bytes
    let (length, bytes) ← takeSigned? 4 bytes
    let (lowest, bytes) ← takeSigned? 4 bytes
    if length < 0 ∨ lowest ≠ 1 then none
    else return .array (← elements? read length.toNat bytes)

/-- The value of bytes of a type, if they are one. -/
def decode? (type : String) (bytes : List UInt8) : Option Json :=
  match type with
  | "BOOL" => bool? bytes
  | "INT2" => int? 16 bytes
  | "INT4" => int? 32 bytes
  | "INT8" => int? 64 bytes
  | "FLOAT4" => float32? bytes
  | "FLOAT8" => float64? bytes
  | "NUMERIC" => some (((numericText? bytes).map numberOrText).getD .null)
  | "UUID" => uuid? bytes
  | "TIMESTAMPTZ" => (integer? 64 bytes).map fun n => .string (zonedText n)
  | "TIMESTAMP" => (integer? 64 bytes).map fun n => .string (timestampText n)
  | "DATE" => (integer? 32 bytes).map fun n => .string (dateText n)
  | "TIME" => (integer? 64 bytes).map fun n => .string (timeText n)
  | "INTERVAL" => (interval? bytes).map fun i => .string i.text
  | "BYTEA" => some (.string (bytesText bytes))
  | "INET" => some (.ofText? (networkText? bytes))
  | "CIDR" => some (.ofText? (networkText? bytes))
  | "JSON" => document? bytes
  | "JSONB" => versionedDocument? bytes
  | "INT2[]" => array? (int? 16) bytes
  | "INT4[]" => array? (int? 32) bytes
  | "INT8[]" => array? (int? 64) bytes
  | "FLOAT4[]" => array? float32? bytes
  | "FLOAT8[]" => array? float64? bytes
  | "BOOL[]" => array? bool? bytes
  | "TEXT[]" => array? text? bytes
  | "VARCHAR[]" => array? text? bytes
  | "CHAR[]" => array? text? bytes
  | "NAME[]" => array? text? bytes
  | "UUID[]" => array? uuid? bytes
  | _ => none

/-- The value of a cell of a type. -/
def value (type : String) : Option (List UInt8) → Json
  | none => .null
  | some bytes => ((decode? type bytes).or (text? bytes)).getD .null

end TableGateway.Cell
