import TableGateway.Request.RawSql
import TableGateway.Rows.Fetch
import TableGateway.Text.Blank

/-!
# Rows of raw SQL

A caller's own statement runs as it is, but for the casts of its references. The answer keeps the first rows
of the result; where no row tells the columns, the database is asked for them, and its refusal does not matter.
-/
namespace TableGateway

/-- What a caller's own statement gave. -/
structure RawAnswer where
  columns : List String
  rows : List Json
  affected : Nat
  deriving Repr

namespace RawAnswer

/-- The greatest number of rows in an answer. -/
def rowLimit : Nat := 500

/-- The names of the columns, if there is a row. -/
def columnsOf (set : ResultSet) : List String :=
  match set.rows with
  | [] => []
  | _ :: _ => set.columns.map (·.name)

def ofResult (set : ResultSet) : RawAnswer where
  columns := columnsOf set
  rows := (set.allRows.take rowLimit).map Row.toJson
  affected := set.affected

def toJson (a : RawAnswer) : Json :=
  .object [("columns", .ofTexts a.columns), ("rows", .array a.rows), ("rowsAffected", .ofNat a.affected)]

end RawAnswer

namespace RawSql

/-- The parameters of a request; none has a type yet. -/
def parameters (request : RawSql) : List Sql.Parameter :=
  request.arguments.map fun value => .ofJson value ""

/-- The answer with the described columns, where it has none. -/
def withColumns (answer : RawAnswer) (text : String) : Call RawAnswer := do
  if answer.columns.isEmpty then
    match ← Call.attempt (Call.describe text) with
    | .ok description => return { answer with columns := description.columns }
    | .error _ => return answer
  else return answer

def run (request : RawSql) : Call RawAnswer := do
  let text := trimmed request.query
  if text = "" then .fail (.badRequest "query is empty")
  else
    let text ← Call.castInferred text request.parameters.length
    let set ← Call.execute text (request.parameters.map .parameter)
    withColumns (.ofResult set) text

end RawSql
end TableGateway
