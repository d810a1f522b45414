import TableGateway.Catalog.Table
import TableGateway.Text.Delimited

/-!
# Selections

A request may name the columns it wants. On a table only the names of its columns count, and where none is
left all columns are meant.
-/
namespace TableGateway

/-- The names of the columns that are wanted; none means all. -/
abbrev Selection := List String

namespace Selection

def ofQuery (query : Dict String) : Selection :=
  ((query.get? "selectCols").map delimitedNames).getD []

/-- The columns of a table that are selected. -/
def columns (selection : Selection) (table : Table) : List Column :=
  match table.columnsNamed selection with
  | [] => table.columns
  | columns => columns

/-- The list of the columns on a table. -/
def text (selection : Selection) (table : Table) : String :=
  ", ".intercalate ((selection.columns table).map Column.quotedName)

end Selection
end TableGateway
