import TableGateway.Call.Basic
import TableGateway.Database.Row
import TableGateway.Sql.Cast
import TableGateway.Sql.Statement

/-!
# Fetching rows

A statement that gives rows is sent as one that gives them as a single JSON array. Before, the types of its
inferred parameters are asked for and cast to: the database describes the statement, and names the types by
their numbers. The statement itself is sent at most once and last.
-/
namespace TableGateway

/-- The statement that names types by their numbers; there is no name for a type that is not known. -/
def typeNamesText : String :=
  "SELECT CASE WHEN t IN (0, 705) THEN NULL ELSE format_type(t::oid, -1) END " ++
    "FROM unnest($1::int8[]) WITH ORDINALITY AS p(t, n) ORDER BY n"

namespace Call

/-- The names of types by their numbers. -/
def typeNames (numbers : List Nat) : Call (List (Option String)) := do
  let set ← execute typeNamesText [.numbers (numbers.map Int.ofNat)]
  ofDatabase (set.allRows.mapM fun row => row.get (.index 0) CellReader.text.orNull)

/-- The text of a statement with its first `count` references cast to the types that the database infers. -/
def castInferred (sql : String) (count : Nat) : Call String := do
  if count = 0 then return sql
  else
    match (← describe sql).parameters with
    | some numbers => return Sql.castReferences sql (← typeNames (numbers.take count))
    | none => return sql

end Call

/-- The rows of a document that was fetched. -/
def rowsOfDocument : Json → List Json
  | .array rows => rows
  | .null => []
  | row => [row]

/-- The document in the only cell that a statement for rows gives. -/
def ResultSet.document (set : ResultSet) : Except DatabaseError Json := do
  (← set.firstRow).get (.index 0) .document

/-- Fetches the rows of a statement. -/
def Sql.Statement.fetch (s : Sql.Statement) : Call (List Json) := do
  let s := s.asJson
  let text ← Call.castInferred s.text s.inferred
  let set ← Call.execute text (s.parameters.map .parameter)
  return rowsOfDocument (← Call.ofDatabase set.document)

end TableGateway
