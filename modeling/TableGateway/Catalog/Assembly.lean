import TableGateway.Catalog.Table
import TableGateway.Error

/-!
# Tables from catalog rows

The catalog describes a column a row. The rows of a table become its columns in the order of the rows; a table
without a row is none. The first row that cannot be placed fails the whole.
-/
namespace TableGateway

/-- A row that describes a column. -/
structure CatalogRow where
  table : String
  column : String
  oid : Int32
  typeName : String
  udtName : String
  isNullable : Bool
  default : Option String
  isPrimaryKey : Bool
  foreignKey : Option Json
  deriving Repr

namespace CatalogRow

def foreignKey? (row : CatalogRow) : Except CatalogError (Option ForeignKey) :=
  match row.foreignKey with
  | none => .ok none
  | some .null => .ok none
  | some value =>
    match ForeignKey.ofJson value with
    | .ok key => .ok (some key)
    | .error cause => .error (.foreignKey row.table row.column cause.message)

def toColumn (row : CatalogRow) (foreignKey : Option ForeignKey) : Column where
  name := row.column
  oid := row.oid
  typeName := row.typeName
  udtName := row.udtName
  isText := isTextOid row.oid
  isNullable := row.isNullable
  default := row.default
  isPrimaryKey := row.isPrimaryKey
  foreignKey := foreignKey

end CatalogRow

namespace Tables

/-- Tables of the names, without columns. -/
def bare (schema : String) (names : List String) : Tables :=
  Dict.ofList (names.map fun name => (name, ⟨name, schema, []⟩))

/-- Puts the column of a row behind those of its table. -/
def addRow (tables : Tables) (row : CatalogRow) : Except CatalogError Tables := do
  let foreignKey ← row.foreignKey?
  match tables.get? row.table with
  | some table =>
    return tables.insert row.table { table with columns := table.columns ++ [row.toColumn foreignKey] }
  | none => throw (.orphan row.table row.column)

/-- The tables of the names that the rows describe. -/
def assemble (schema : String) (names : List String) (rows : List CatalogRow) : Except CatalogError Tables :=
  (rows.foldlM addRow (bare schema names)).map (Dict.filter fun table => !table.columns.isEmpty)

end Tables
end TableGateway
