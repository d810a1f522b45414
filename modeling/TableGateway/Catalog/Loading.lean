import TableGateway.Call.Basic
import TableGateway.Catalog.Assembly
import TableGateway.Database.Row

/-!
# Reading the catalog

The tables of a schema are loaded as a whole or not at all. Without a list of names all base tables are meant;
names without a table are passed over. A reload publishes the tables that it loaded, and a failed one changes
nothing.
-/
namespace TableGateway

/-- The statement that lists the base tables of a schema. -/
def baseTablesText : String :=
  "\n".intercalate
    ["",
      "    SELECT table_name::text",
      "    FROM information_schema.tables",
      "    WHERE table_schema = $1 AND table_type = 'BASE TABLE'",
      "    ORDER BY table_name",
      ""]

/-- The statement that describes the columns of tables of a schema. -/
def columnsText : String :=
  "\n".intercalate
    ["",
      "    SELECT",
      "        c.table_name::text AS table_name,",
      "        c.column_name::text AS column_name,",
      "        c.udt_name::text::regtype::oid::int AS oid,",
      "        c.udt_name::text::regtype::text AS reg_type,",
      "        c.udt_name::text AS udt_name,",
      "        c.is_nullable = 'YES' AS is_nullable,",
      "        c.column_default::text AS column_default,",
      "        (",
      "            SELECT COUNT(*) > 0",
      "            FROM information_schema.key_column_usage kcu",
      "            JOIN information_schema.table_constraints tc",
      "                ON tc.constraint_name = kcu.constraint_name",
      "                AND tc.constraint_schema = kcu.constraint_schema",
      "            WHERE tc.table_schema = c.table_schema",
      "                AND tc.table_name = c.table_name",
      "                AND tc.constraint_type = 'PRIMARY KEY'",
      "                AND kcu.column_name = c.column_name",
      "        ) AS is_primary_key,",
      "        (",
      "            SELECT json_build_object(",
      "                'tableName', cl.table_name,",
      "                'columnName', cl.column_name,",
      "                'constraintName', fk.constraint_name",
      "            )",
      "            FROM information_schema.constraint_column_usage AS cl",
      "            JOIN information_schema.referential_constraints fk",
      "                ON cl.constraint_name = fk.unique_constraint_name",
      "                AND cl.constraint_schema = fk.unique_constraint_schema",
      "            JOIN information_schema.key_column_usage AS kcu",
      "                ON kcu.constraint_name = fk.constraint_name",
      "                AND kcu.constraint_schema = fk.constraint_schema",
      "            WHERE kcu.table_schema = c.table_schema",
      "                AND kcu.table_name = c.table_name",
      "                AND kcu.column_name = c.column_name",
      "            LIMIT 1",
      "        ) AS foreign_key_info",
      "    FROM information_schema.columns c",
      "    WHERE c.table_schema = $1 AND c.table_name::text = ANY($2)",
      "    ORDER BY c.table_name, c.ordinal_position ASC",
      ""]

/-- The statement that lists the schemas that are not the system's. -/
def schemaNamesText : String :=
  "\n".intercalate
    ["",
      "        SELECT nspname::text",
      "        FROM pg_catalog.pg_namespace",
      "        WHERE nspname NOT IN ('pg_catalog', 'pg_toast', 'information_schema')",
      "        ORDER BY nspname",
      "    "]

namespace CatalogRow

/-- The row that a row of the statement for columns is. -/
def ofRow (row : Row) : Except DatabaseError CatalogRow := do
  let table ← row.get (.named "table_name") .text
  let column ← row.get (.named "column_name") .text
  let oid ← row.get (.named "oid") (.integer "INT4" 32)
  let typeName ← row.get (.named "reg_type") .text
  let udtName ← row.get (.named "udt_name") .text
  let isNullable ← row.get (.named "is_nullable") .truth
  let default ← row.get (.named "column_default") CellReader.text.orNull
  let isPrimaryKey ← row.get (.named "is_primary_key") .truth
  let foreignKey ← row.get (.named "foreign_key_info") CellReader.document.orNull
  return { table, column, oid := .ofInt oid, typeName, udtName, isNullable, default,
           isPrimaryKey, foreignKey }

end CatalogRow

namespace Call
variable {α : Type}

/-- A value that the catalog gave, or its cause as the cause of the call. -/
def ofCatalog : Except CatalogError α → Call α
  | .ok value => done value
  | .error cause => fail (.catalog cause)

/-- Runs a statement on the catalog and reads its rows. -/
def queryCatalog (sql : String) (arguments : List Argument) (read : Row → Except DatabaseError α) :
    Call (List α) := do
  let set ← effect (.ask (.execute sql arguments))
  ofCatalog ((set.bind fun set => set.allRows.mapM read).mapError .query)

/-- The text in the first cell of a row. -/
def firstText (row : Row) : Except DatabaseError String :=
  row.get (.index 0) .text

/-- The names of the tables that are meant. -/
def tableNames (schema : String) (included : List String) : Call (List String) :=
  match included with
  | [] => queryCatalog baseTablesText [.parameter (.text schema)] firstText
  | names => done names

def loadTables (schema : String) (included : List String) : Call Tables := do
  let names ← tableNames schema included
  let rows ← queryCatalog columnsText [.parameter (.text schema), .texts names] CatalogRow.ofRow
  ofCatalog (Tables.assemble schema names rows)

/-- Publishes the tables of a schema, and gives what is published then. -/
def reloadTables (schema : String) (included : List String) : Call Tables := do
  effect (.publish (← loadTables schema included))
  tables

/-- The names of the schemas that are not the system's. -/
def schemaNames : Call (List String) :=
  queryCatalog schemaNamesText [] firstText

end Call
end TableGateway
