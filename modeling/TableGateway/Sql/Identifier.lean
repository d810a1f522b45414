/-!
# Quoted identifiers

An identifier stands between double quotes, and a double quote within it is written twice.
-/
namespace TableGateway.Sql

/-- One character within a quoted identifier. -/
def quotedChar (c : Char) : List Char :=
  if c = '\x22' then ['\x22', '\x22'] else [c]

/-- A name as a quoted identifier. -/
def quoted (name : String) : String :=
  String.ofList ('\x22' :: name.toList.flatMap quotedChar ++ ['\x22'])

end TableGateway.Sql
