import TableGateway.Json.Basic

/-!
# Errors

Every cause for which a call gives no answer. A cause has one wording (`Error.message`), one status and one
code (`Error.status`, `Error.code`), and a document that shows them (`Error.body`).
-/
namespace TableGateway

/-- Why the database gave no answer, or one that cannot be used. -/
inductive DatabaseError where
  /-- A row was expected and none came. -/
  | noRow
  /-- The connections are closed. -/
  | closed
  /-- The server cannot be reached. -/
  | unreachable (reason : String)
  /-- The server refused a statement. -/
  | refused (reason : String)
  /-- A row has no column of the name. -/
  | noColumn (name : String)
  /-- A row of so many columns has no cell at the index. -/
  | noCell (count index : Nat)
  /-- The cell of a column is no value of the type that was expected. -/
  | unreadable (column reason : String)
  deriving DecidableEq, Repr

/-- Why the catalog gave no tables. -/
inductive CatalogError where
  /-- A query failed. -/
  | query (cause : DatabaseError)
  /-- A column belongs to no table that was asked for. -/
  | orphan (table column : String)
  /-- The description of a foreign key cannot be read. -/
  | foreignKey (table column reason : String)
  deriving DecidableEq, Repr

/-- Why a relation has no columns to join by. -/
inductive LinkError where
  /-- The table of a role is unknown. -/
  | noTable (role table : String)
  /-- The join table has no column for a side. -/
  | noColumn (side joinTable : String)
  deriving DecidableEq, Repr

/-- Why no statement is made. -/
inductive StatementError where
  /-- No column of the table is assigned a value. -/
  | nothingAssigned (table : String)
  /-- Rows are not deleted without a restriction. -/
  | unrestricted (table : String)
  deriving DecidableEq, Repr

/-- Why a call has no answer. -/
inductive Error where
  | catalog (cause : CatalogError)
  | unknownTable (name : String)
  | link (cause : LinkError)
  | statement (cause : StatementError)
  /-- A value is not one of the kind that is stored or configured. -/
  | invalid (reason : String)
  | database (cause : DatabaseError)
  /-- The call itself makes no sense. -/
  | badRequest (reason : String)
  deriving DecidableEq, Repr

def DatabaseError.message : DatabaseError → String
  | .noRow => "no rows returned by a query that expected to return at least one row"
  | .closed => "attempted to acquire a connection on a closed pool"
  | .unreachable reason => "error communicating with database: " ++ reason
  | .refused reason => "error returned from database: " ++ reason
  | .noColumn name => "no column found for name: " ++ name
  | .noCell count index =>
    "column index out of bounds: the len is " ++ count.repr ++ ", but the index is " ++ index.repr
  | .unreadable column reason => "error occurred while decoding column " ++ column ++ ": " ++ reason

def CatalogError.message : CatalogError → String
  | .query cause => "catalog query: " ++ cause.message
  | .orphan table column => "column " ++ column ++ " references unknown table " ++ table
  | .foreignKey table column reason =>
    "invalid foreign key descriptor on " ++ table ++ "." ++ column ++ ": " ++ reason

def LinkError.message : LinkError → String
  | .noTable role table => "unknown " ++ role ++ " table: " ++ table
  | .noColumn side joinTable => "can't resolve " ++ side ++ " on join table " ++ joinTable

def StatementError.message : StatementError → String
  | .nothingAssigned table => "no valid columns in row for table " ++ table
  | .unrestricted table => "refusing to delete from " ++ table ++ " with empty filters"

namespace Error

def message : Error → String
  | .catalog cause => cause.message
  | .unknownTable name => "unknown table: " ++ name
  | .link cause => cause.message
  | .statement cause => cause.message
  | .invalid reason => "validation: " ++ reason
  | .database cause => "database: " ++ cause.message
  | .badRequest reason => "bad request: " ++ reason

def status : Error → Nat
  | .catalog _ => 500
  | .unknownTable _ => 404
  | .link (.noTable ..) => 404
  | .link (.noColumn ..) => 400
  | .statement _ => 400
  | .invalid _ => 422
  | .database .noRow => 404
  | .database _ => 500
  | .badRequest _ => 400

/-- The code of the cause. -/
def code : Error → String
  | .catalog _ => "schema_error"
  | .unknownTable _ => "not_found"
  | .link (.noTable ..) => "not_found"
  | .link (.noColumn ..) => "join_column_not_found"
  | .statement (.nothingAssigned _) => "no_valid_columns"
  | .statement (.unrestricted _) => "empty_filter"
  | .invalid _ => "validation_error"
  | .database .noRow => "not_found"
  | .database _ => "database_error"
  | .badRequest _ => "bad_request"

/-- What is shown beside the wording. -/
def details : Error → List (String × Json)
  | .link (.noTable role table) =>
    [("details", .object [("role", .string role), ("table", .string table)])]
  | .link (.noColumn side joinTable) =>
    [("details", .object [("joinTable", .string joinTable), ("side", .string side)])]
  | _ => []

def body (e : Error) : Json :=
  .object [("error", .object (("code", .string e.code) :: e.details ++ [("message", .string e.message)]))]

end Error
end TableGateway
