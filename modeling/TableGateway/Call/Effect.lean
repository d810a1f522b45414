import TableGateway.Catalog.Table
import TableGateway.Database.Request
import TableGateway.Settings.TableSettings

/-!
# Effects

What a call may do besides computing: send a request to the database, read or replace the published tables,
read or write the cached settings, and hold the lock under which settings are written. Between two effects
of a call the effects of other calls may happen.
-/
namespace TableGateway

/-- A single step of a call that others can see. -/
inductive Effect where
  | ask (request : Database.Request)
  /-- Reads the published tables. -/
  | snapshot
  /-- Replaces the published tables. -/
  | publish (tables : Tables)
  /-- Reads the cached settings of a table. -/
  | recall (table : String)
  /-- Caches settings of a table. -/
  | remember (table : String) (settings : TableSettings)
  /-- Replaces all cached settings. -/
  | replaceCache (cache : Dict TableSettings)
  /-- Waits for the lock of the settings and takes it. -/
  | lock
  /-- Gives the lock back. -/
  | unlock

/-- What an effect gives back. -/
abbrev Effect.Answer : Effect → Type
  | .ask request => request.Answer
  | .snapshot => Tables
  | .publish _ => Unit
  | .recall _ => Option TableSettings
  | .remember .. => Unit
  | .replaceCache _ => Unit
  | .lock => Unit
  | .unlock => Unit

end TableGateway
