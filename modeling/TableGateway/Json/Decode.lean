import TableGateway.Json.Printer
import TableGateway.Text.Escaped

/-!
# Typed values from JSON

A reader takes a JSON value and gives a typed one, or the cause why the value has none. Lists and maps are
read in order, so their first fault counts.
-/
namespace TableGateway

/-- What a reader met. -/
inductive Found where
  | null
  | bool (value : Bool)
  | number (value : Json.Number)
  | string (value : String)
  | sequence
  | map
  deriving DecidableEq, Repr

/-- Why a value cannot be read. -/
inductive DecodeError where
  | wrongType (found : Found) (expected : String)
  | wrongValue (found : Found) (expected : String)
  | wrongLength (length : Nat) (expected : String)
  | missingField (name : String)
  | unknownVariant (name : String) (known : List String)
  deriving DecidableEq, Repr

/-- A name as the messages show it. -/
def ticked (name : String) : String :=
  "`" ++ name ++ "`"

def Found.text : Found → String
  | .null => "null"
  | .bool b => "boolean " ++ ticked (if b then "true" else "false")
  | .number (.integer n) => "integer " ++ ticked (intText n)
  | .number (.float x) => "floating point " ++ ticked x.text
  | .string s => "string " ++ shown s
  | .sequence => "sequence"
  | .map => "map"

def DecodeError.message : DecodeError → String
  | .wrongType found expected => "invalid type: " ++ found.text ++ ", expected " ++ expected
  | .wrongValue found expected => "invalid value: " ++ found.text ++ ", expected " ++ expected
  | .wrongLength length expected => "invalid length " ++ length.repr ++ ", expected " ++ expected
  | .missingField name => "missing field " ++ ticked name
  | .unknownVariant name known =>
    "unknown variant " ++ ticked name ++ ", expected " ++ " or ".intercalate (known.map ticked)

/-- A reader of JSON values. -/
abbrev Reader (α : Type) := Json → Except DecodeError α

namespace Json

/-- What a value is to a reader that expected something else. -/
def found : Json → Found
  | .null => .null
  | .bool b => .bool b
  | .number n => .number n
  | .string s => .string s
  | .array _ => .sequence
  | .object _ => .map

/-- Any value. -/
def asJson : Reader Json := .ok

def asText : Reader String
  | .string s => .ok s
  | other => .error (.wrongType other.found "a string")

def asBool : Reader Bool
  | .bool b => .ok b
  | other => .error (.wrongType other.found "a boolean")

/-- An integer of 32 bits. -/
def asInt32 : Reader Int32
  | .number (.integer n) =>
    if Int32.minValue.toInt ≤ n ∧ n ≤ Int32.maxValue.toInt then .ok (Int32.ofInt n)
    else .error (.wrongValue (.number (.integer n)) "i32")
  | other => .error (.wrongType other.found "i32")

/-- Nothing or a value. -/
def nullable {α : Type} (read : Reader α) : Reader (Option α)
  | .null => .ok none
  | other => (read other).map some

def asList {α : Type} (read : Reader α) : Reader (List α)
  | .array items => items.mapM read
  | other => .error (.wrongType other.found "a sequence")

/-- A map of texts to values. -/
def asDict {α : Type} (read : Reader α) : Reader (Dict α)
  | .object members =>
    (members.mapM fun (member : String × Json) => (read member.2).map fun v => (member.1, v)).map Dict.ofList
  | other => .error (.wrongType other.found "a map")

end Json
end TableGateway
