import TableGateway.Call.Basic
import TableGateway.Database.Row

/-!
# Statistics

How many tables and rows a schema has, and how much room they take.
-/
namespace TableGateway

structure Statistics where
  database : String
  schema : String
  tables : Int
  rows : Int
  /-- The number of bytes. -/
  size : Int
  sizeText : String
  deriving DecidableEq, Repr

namespace Statistics

/-- The statement that counts. -/
def queryText : String :=
  "\n".intercalate
    ["",
      "    WITH table_count AS (",
      "        SELECT COUNT(*) AS cnt",
      "        FROM information_schema.tables",
      "        WHERE table_schema = $1 AND table_type = 'BASE TABLE'",
      "    ),",
      "    row_stats AS (",
      "        SELECT COALESCE(SUM(n_live_tup), 0)::bigint AS rows",
      "        FROM pg_stat_user_tables",
      "        WHERE schemaname = $1",
      "    ),",
      "    size_stats AS (",
      "        SELECT COALESCE(SUM(pg_total_relation_size(c.oid)), 0)::bigint AS bytes",
      "        FROM pg_class c",
      "        JOIN pg_namespace n ON n.oid = c.relnamespace",
      "        WHERE n.nspname = $1",
      "    )",
      "    SELECT current_database()::text, tc.cnt, rs.rows, ss.bytes, pg_size_pretty(ss.bytes)",
      "    FROM table_count tc, row_stats rs, size_stats ss",
      ""]

/-- The statistics that a row of the statement tells. -/
def ofRow (schema : String) (row : Row) : Except DatabaseError Statistics := do
  let database ← row.get (.index 0) .text
  let tables ← row.get (.index 1) (.integer "INT8" 64)
  let rows ← row.get (.index 2) (.integer "INT8" 64)
  let size ← row.get (.index 3) (.integer "INT8" 64)
  let sizeText ← row.get (.index 4) .text
  return { database, schema, tables, rows, size, sizeText }

def toJson (s : Statistics) : Json :=
  .object [("dbName", .string s.database), ("schemaName", .string s.schema), ("size", .ofInt s.size),
    ("sizePretty", .string s.sizeText), ("tablesCount", .ofInt s.tables), ("totalRows", .ofInt s.rows)]

end Statistics

def Call.statistics (schema : String) : Call Statistics := do
  let set ← Call.execute Statistics.queryText [.parameter (.text schema)]
  Call.ofDatabase (set.firstRow.bind (Statistics.ofRow schema))

end TableGateway
