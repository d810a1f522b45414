import TableGateway.Json.Printer

/-!
# Parameters

A parameter is a text or NULL; the statement converts it to the type of its place. JSON values become input
text: a string its characters, an array for an array type the literal that such types read, all else its
JSON text.
-/
namespace TableGateway.Sql

/-- A value bound to a statement. -/
inductive Parameter where
  | null
  | text (value : String)
  deriving DecidableEq, Repr

/-- One character within a quoted element of an array literal. -/
def elementChar (c : Char) : List Char :=
  if c = '\\' ∨ c = '\x22' then ['\\', c] else [c]

/-- A quoted element of an array literal. -/
def quotedElement (s : String) : String :=
  String.ofList ('\x22' :: s.toList.flatMap elementChar ++ ['\x22'])

mutual

/-- An element of an array literal. Texts are always quoted, so that none reads as NULL. -/
def elementText : Json → String
  | .null => "NULL"
  | .array items => "\x7b" ++ ",".intercalate (elementTexts items) ++ "\x7d"
  | .string s => quotedElement s
  | .object members => quotedElement (Json.text (.object members))
  | .bool b => Json.text (.bool b)
  | .number n => Json.text (.number n)

/-- The elements of an array literal. -/
def elementTexts : List Json → List String
  | [] => []
  | item :: rest => elementText item :: elementTexts rest

end

/-- The array literal of a list of values. -/
def arrayLiteral (items : List Json) : String :=
  elementText (.array items)

/-- Holds for the names of array types. -/
def isArrayType (type : String) : Bool :=
  ['[', ']'].isSuffixOf type.toList

/-- The parameter of a JSON value for a place of the given type. -/
def Parameter.ofJson (value : Json) (type : String) : Parameter :=
  match value with
  | .null => .null
  | .string s => .text s
  | .array items => if isArrayType type then .text (arrayLiteral items) else .text (Json.text (.array items))
  | other => .text other.text

end TableGateway.Sql
