import TableGateway.Call.Basic
import TableGateway.Database.Location
import TableGateway.Database.Row
import TableGateway.Sql.Identifier

/-!
# Preparing a database

Before a gateway starts, the database of its URL is made if there is none. The database for maintenance is
always there.
-/
namespace TableGateway

/-- The statement that asks whether a database is there. -/
def databaseExistsText : String :=
  "SELECT EXISTS(SELECT 1 FROM pg_database WHERE datname = $1)"

/-- The statement that makes a database. -/
def createDatabaseText (name : String) : String :=
  "CREATE DATABASE " ++ Sql.quoted name

namespace Call

/-- Makes a database over a connection of its own, unless it is there. -/
def createDatabase (connection : Connection) (name : String) : Call Unit := do
  ofDatabase (← effect (.ask (.connect connection.endpoint connection.database)))
  let set ← execute databaseExistsText [.parameter (.text name)]
  let found ← ofDatabase (set.firstRow.bind fun row => row.get (.index 0) .truth)
  if found then return ()
  else
    let _ ← execute (createDatabaseText name) []

/-- Makes the database of a URL, unless it is there. -/
def prepareDatabase (url : String) : Call Unit :=
  match DatabaseUrl.split? url with
  | none => .fail (.badRequest "DATABASE_URL: no path")
  | some (maintenance, name) =>
    if name = "" ∨ name = DatabaseUrl.maintenanceName then .done ()
    else
      match Connection.ofUrl maintenance with
      | .ok connection => createDatabase connection name
      | .error reason => .fail (.badRequest ("invalid DATABASE_URL: " ++ reason))

end Call
end TableGateway
