import TableGateway.Error
import TableGateway.Request.Listing
import TableGateway.Request.Payload
import TableGateway.Sql.Condition

/-!
# Statements

The statements for the rows of a table. Identifiers are those of the table, values are parameters. The
parameters of the condition come first, those of assignments behind them.
-/
namespace TableGateway.Sql

/-- A statement with its parameters, of which the first `inferred` have a type that only the server knows. -/
structure Statement where
  text : String
  parameters : List Parameter
  inferred : Nat
  deriving DecidableEq, Repr

/-- The statement that gives the rows of another one as one JSON array. -/
def jsonText (text : String) : String :=
  "WITH q AS (" ++ text ++ ") SELECT COALESCE(json_agg(row_to_json(q)), '[]'::json) FROM q"

/-- The statement that gives its rows as one JSON array. -/
def Statement.asJson (s : Statement) : Statement :=
  { s with text := jsonText s.text }

/-- Clauses with spaces between them; an empty one is left out. -/
def joinClauses (clauses : List String) : String :=
  " ".intercalate (clauses.filter (· ≠ ""))

/-- The start of a statement that lists rows. -/
def selectHead (table : Table) (selection : Selection) : String :=
  "SELECT " ++ selection.text table ++ " FROM " ++ table.quotedName

def select (table : Table) (listing : Listing) : Statement :=
  let condition := listing.filter.condition table
  { text := joinClauses [selectHead table listing.selection, condition.text,
      Order.clause (listing.order.effectiveTerms table), listing.page.text]
    parameters := condition.parameters
    inferred := condition.inferred }

/-- The text that inserts a row. -/
def insertText (table : Table) (assignments : List Assignment) : String :=
  "INSERT INTO " ++ table.quotedName ++ " (" ++ ", ".intercalate (assignments.map (·.column.quotedName)) ++
    ") VALUES (" ++ ", ".intercalate (assignments.map Assignment.placeholder) ++ ") RETURNING *"

def insert (table : Table) (payload : Payload) : Except StatementError Statement :=
  match payload.assignments table 0 with
  | [] => .error (.nothingAssigned table.name)
  | assignments =>
    .ok { text := insertText table assignments, parameters := assignments.map (·.value), inferred := 0 }

/-- The assignment within an update. -/
def setText (a : Assignment) : String :=
  a.column.quotedName ++ " = " ++ a.placeholder

/-- The start of a statement that updates rows. -/
def updateHead (table : Table) (assignments : List Assignment) : String :=
  "UPDATE " ++ table.quotedName ++ " SET " ++ ", ".intercalate (assignments.map setText)

def update (table : Table) (filter : Filter) (payload : Payload) : Except StatementError Statement :=
  let condition := filter.condition table
  match payload.assignments table condition.parameters.length with
  | [] => .error (.nothingAssigned table.name)
  | assignments =>
    .ok
      { text := joinClauses [updateHead table assignments, condition.text, "RETURNING *"]
        parameters := condition.parameters ++ assignments.map (·.value)
        inferred := condition.inferred }

/-- Deletes rows, never all rows of a table. -/
def delete (table : Table) (filter : Filter) : Except StatementError Statement :=
  let condition := filter.condition table
  if condition = .all then .error (.unrestricted table.name)
  else
    .ok
      { text := "DELETE FROM " ++ table.quotedName ++ " " ++ condition.text ++ " RETURNING *"
        parameters := condition.parameters
        inferred := condition.inferred }

end TableGateway.Sql
