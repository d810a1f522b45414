import TableGateway.Rows.Fetch

/-!
# Rows of a table

Rows are listed, inserted, updated and deleted by the statements for them. The view of a table is a listing
with the table's settings for what the request leaves open.
-/
namespace TableGateway

/-- A statement, or its cause as the cause of the call. -/
def Call.ofStatement : Except StatementError Sql.Statement → Call Sql.Statement
  | .ok s => .done s
  | .error cause => .fail (.statement cause)

/-- Rows with the columns that were selected. -/
structure TableView where
  rows : List Json
  columns : List Column
  deriving Repr

def TableView.toJson (v : TableView) : Json :=
  .object [("columns", .array (v.columns.map Column.toJson)), ("rows", .array v.rows)]

/-- The listing with the columns of the settings where it names none: for its selection and its search. -/
def Listing.withSettings (l : Listing) (settings : TableSettings) : Listing :=
  { l with
    selection := if l.selection.isEmpty then settings.viewColumns else l.selection
    filter := l.filter.withColumns settings.searchColumns }

namespace Table

def list (t : Table) (listing : Listing) : Call (List Json) :=
  (Sql.select t listing).fetch

/-- Inserts a row and gives it back. -/
def insert (t : Table) (payload : Payload) : Call (List Json) := do
  (← Call.ofStatement (Sql.insert t payload)).fetch

def update (t : Table) (filter : Filter) (payload : Payload) : Call (List Json) := do
  (← Call.ofStatement (Sql.update t filter payload)).fetch

def delete (t : Table) (filter : Filter) : Call (List Json) := do
  (← Call.ofStatement (Sql.delete t filter)).fetch

/-- The view of a listing under settings. -/
def view (t : Table) (listing : Listing) (settings : TableSettings) : Call TableView := do
  let listing := listing.withSettings settings
  return { rows := ← t.list listing, columns := listing.selection.columns t }

end Table
end TableGateway
