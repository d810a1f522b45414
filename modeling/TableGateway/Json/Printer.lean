import TableGateway.Json.Basic
import TableGateway.Number.Shortest
import TableGateway.Text.Integer

/-!
# JSON text

The text of a value has no spaces. In a string the quote, the backslash and the controls are escaped
and all else stands for itself.
-/
namespace TableGateway
namespace Json

def Number.text : Number → String
  | .integer n => intText n
  | .float x => x.text

/-- A hexadecimal digit below 16, lower case. -/
def hexDigit (n : Nat) : Char :=
  Nat.digitChar n

/-- One character within a string. -/
def escapedChar (c : Char) : List Char :=
  if c = '\x22' then ['\\', '\x22']
  else if c = '\\' then ['\\', '\\']
  else if c = '\x08' then ['\\', 'b']
  else if c = '\x0c' then ['\\', 'f']
  else if c = '\n' then ['\\', 'n']
  else if c = '\r' then ['\\', 'r']
  else if c = '\t' then ['\\', 't']
  else if c.toNat < 0x20 then ['\\', 'u', '0', '0', hexDigit (c.toNat / 16), hexDigit (c.toNat % 16)]
  else [c]

/-- The text of a string, with its quotes. -/
def stringText (s : String) : String :=
  String.ofList ('\x22' :: s.toList.flatMap escapedChar ++ ['\x22'])

mutual

def text : Json → String
  | .null => "null"
  | .bool b => if b then "true" else "false"
  | .number n => n.text
  | .string s => stringText s
  | .array items => "[" ++ ",".intercalate (itemTexts items) ++ "]"
  | .object members => "\x7b" ++ ",".intercalate (memberTexts members) ++ "\x7d"

/-- The texts of the items of an array. -/
def itemTexts : List Json → List String
  | [] => []
  | item :: rest => text item :: itemTexts rest

/-- The texts of the members of an object. -/
def memberTexts : List (String × Json) → List String
  | [] => []
  | (key, value) :: rest => (stringText key ++ ":" ++ text value) :: memberTexts rest

end

end Json
end TableGateway
