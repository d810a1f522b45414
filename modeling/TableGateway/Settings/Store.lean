import TableGateway.Call.Basic
import TableGateway.Database.Row

/-!
# The store of settings

The settings of a table are one document in a table of their own, and a cache answers for them. An update
merges its members into the document. The cached settings must take the members before they are written, and
what the database then holds is what the cache takes. Updates hold a lock, so that they happen one after the
other.
-/
namespace TableGateway

/-- The kind that settings of tables are kept under. -/
def settingsKind : String := "table_settings"

/-- The table of settings in a schema, quoted. -/
def settingsTable (schema : String) : String :=
  Sql.quoted schema ++ "." ++ Sql.quoted "settings"

/-- The statement that reads all documents of a kind. -/
def readSettingsText (schema : String) : String :=
  "SELECT key, config FROM " ++ settingsTable schema ++ " WHERE kind = $1"

/-- The statement that merges members into a document. -/
def mergeSettingsText (schema : String) : String :=
  let table := settingsTable schema
  "INSERT INTO " ++ table ++ " (kind, key, config) VALUES ($1, $2, $3) " ++
    "ON CONFLICT (kind, key) DO UPDATE SET config = " ++ table ++
    ".config || EXCLUDED.config, updated_at = NOW() RETURNING config"

/-- The statement that makes the schema of the settings, if there is none. -/
def createSchemaText (schema : String) : String :=
  "CREATE SCHEMA IF NOT EXISTS " ++ Sql.quoted schema

/-- The statement that makes the table of the settings, if there is none. -/
def createSettingsText (schema : String) : String :=
  "\n".intercalate
    ["",
      "        CREATE TABLE IF NOT EXISTS " ++ settingsTable schema ++ " (",
      "            id BIGSERIAL PRIMARY KEY,",
      "            kind TEXT NOT NULL,",
      "            key TEXT NOT NULL,",
      "            config JSONB NOT NULL DEFAULT '\x7b\x7d'::jsonb,",
      "            created_at TIMESTAMPTZ NOT NULL DEFAULT NOW(),",
      "            updated_at TIMESTAMPTZ NOT NULL DEFAULT NOW(),",
      "            CONSTRAINT settings_kind_key_unique UNIQUE (kind, key)",
      "        )",
      "        "]

namespace TableSettings

/-- The name and the document of a row. -/
def entryOfRow (row : Row) : Except DatabaseError (String × Json) := do
  let name ← row.get (.index 0) .text
  let document ← row.get (.index 1) .document
  return (name, document)

/-- The settings of documents; a document that holds none is passed over. -/
def cacheOf (entries : List (String × Json)) : Dict TableSettings :=
  .ofList (entries.filterMap fun (name, document) =>
    (TableSettings.ofJson document).toOption.map fun settings => (name, settings))

/-- Settings that were read, or the cause of the call. -/
def orInvalid : Except DecodeError TableSettings → Call TableSettings
  | .ok settings => .done settings
  | .error cause => .fail (.invalid cause.message)

end TableSettings

namespace Call

/-- Makes the schema and the table of the settings, if there are none. -/
def prepareSettings (schema : String) : Call Unit := do
  let _ ← execute (createSchemaText schema) []
  let _ ← execute (createSettingsText schema) []

/-- All settings that are kept in a schema. -/
def loadSettings (schema : String) : Call (Dict TableSettings) := do
  let set ← execute (readSettingsText schema) [.parameter (.text settingsKind)]
  return TableSettings.cacheOf (← ofDatabase (set.allRows.mapM TableSettings.entryOfRow))

/-- The cached settings of a table; there are blank ones where none were kept. -/
def cachedSettings (table : Table) : Call TableSettings := do
  return (← effect (.recall table.name)).getD .blank

/-- The settings of a table with its defaults. -/
def settings (table : Table) : Call TableSettings := do
  return (← cachedSettings table).withDefaults table

/-- Merges a document into the one that the database keeps for a table, and gives what it keeps then. -/
def mergeSettings (schema table : String) (document : Json) : Call Json := do
  let set ← execute (mergeSettingsText schema)
    [.parameter (.text settingsKind), .parameter (.text table), .document document]
  ofDatabase (set.firstRow.bind fun row => row.get (.index 0) .document)

/-- Merges members into the settings of a table, and gives them with its defaults. -/
def updateSettings (schema : String) (table : Table) (change : Json) : Call TableSettings := do
  match change with
  | .object members =>
    locked do
      let _ ← TableSettings.orInvalid ((← cachedSettings table).merge members)
      let document ← mergeSettings schema table.name change
      let settings ← TableSettings.orInvalid (TableSettings.ofJson document)
      effect (.remember table.name settings)
      return settings.withDefaults table
  | _ => fail (.badRequest "settings must be a JSON object")

end Call
end TableGateway
