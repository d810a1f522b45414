import TableGateway.Catalog.Column

/-!
# Tables

A table is a name in a schema and its columns in their order. Where columns share a name, the first one
answers to it.
-/
namespace TableGateway

structure Table where
  name : String
  schema : String
  columns : List Column
  deriving DecidableEq, Repr

abbrev Tables := Dict Table

namespace Table

/-- The name with its schema, quoted. -/
def quotedName (t : Table) : String :=
  Sql.quoted t.schema ++ "." ++ Sql.quoted t.name

def columnNames (t : Table) : List String :=
  t.columns.map (·.name)

/-- The first column of a name. -/
def column? (t : Table) (name : String) : Option Column :=
  t.columns.find? fun c => c.name = name

/-- The columns of a list of names, in its order; a name without a column has none. -/
def columnsNamed (t : Table) (names : List String) : List Column :=
  names.filterMap t.column?

/-- The columns that are searched by default. -/
def textColumns (t : Table) : List Column :=
  t.columns.filter (·.isText)

/-- The names of the columns that are searched by default. -/
def textColumnNames (t : Table) : List String :=
  t.textColumns.map (·.name)

/-- The first column of the primary key. -/
def primaryKey? (t : Table) : Option Column :=
  t.columns.find? (·.isPrimaryKey)

/-- The columns with a foreign key to a table. -/
def foreignKeysTo (t : Table) (target : String) : List Column :=
  t.columns.filter fun c => c.references target

def record : Record Table :=
  Record.start Table.mk
    |>.required "name" Json.asText
    |>.required "schema" Json.asText
    |>.required "columns" (Json.asList Column.ofJson)

def ofJson : Reader Table :=
  record.decode "Table"

def toJson (t : Table) : Json :=
  .object [("columns", .array (t.columns.map Column.toJson)), ("name", .string t.name),
    ("schema", .string t.schema)]

end Table

def Tables.toJson (tables : Tables) : Json :=
  .ofDict (Dict.map Table.toJson tables)

end TableGateway
