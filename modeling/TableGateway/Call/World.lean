import TableGateway.Call.Basic
import TableGateway.Database.Script

/-!
# The world of a gateway

What calls share: the published tables, the cached settings with their lock, and the database. Calls that run
one after the other find the lock free.
-/
namespace TableGateway

/-- What calls share. -/
structure World where
  tables : Tables
  cache : Dict TableSettings
  isLocked : Bool
  database : Database

namespace World

/-- The answer to an effect, and the world behind it. -/
def answer (effect : Effect) (w : World) : effect.Answer × World :=
  match effect with
  | .ask request =>
    let (answer, database) := w.database.answer request
    (answer, { w with database })
  | .snapshot => (w.tables, w)
  | .publish tables => ((), { w with tables })
  | .recall table => (w.cache.get? table, w)
  | .remember table settings => ((), { w with cache := w.cache.insert table settings })
  | .replaceCache cache => ((), { w with cache })
  | .lock => ((), { w with isLocked := true })
  | .unlock => ((), { w with isLocked := false })

/-- Runs a call alone. -/
def run {α : Type} (w : World) (call : Call α) : Except Error α × World :=
  call.run answer w

end World
end TableGateway
