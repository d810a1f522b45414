import TableGateway.Json.Record

/-!
# Requests of raw SQL

A caller may send a statement of its own with values for its references.
-/
namespace TableGateway

/-- A statement of the caller with the values for its references. -/
structure RawSql where
  query : String
  arguments : List Json
  deriving Repr

namespace RawSql

def record : Record RawSql :=
  Record.start RawSql.mk
    |>.required "query" Json.asText
    |>.withDefault "args" (Json.asList Json.asJson) []

def ofJson : Reader RawSql :=
  record.decode "SqlExecutionRequest"

def toJson (request : RawSql) : Json :=
  .object [("args", .array request.arguments), ("query", .string request.query)]

end RawSql
end TableGateway
