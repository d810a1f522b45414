import TableGateway.Catalog.Table
import TableGateway.Sql.Parameter

/-!
# Payloads

A payload assigns values to names. On a table the names of its columns are bound to parameters, one after
the other by increasing name (`Payload.assignments`); other names are dropped.
-/
namespace TableGateway

/-- Values by name. -/
abbrev Payload := Dict Json

/-- A column with the parameter for its value and the parameter's number. -/
structure Assignment where
  column : Column
  value : Sql.Parameter
  position : Nat
  deriving DecidableEq, Repr

/-- The parameter, converted to the column's type. -/
def Assignment.placeholder (a : Assignment) : String :=
  a.column.placeholder a.position

namespace Payload

def ofJson : Reader Payload :=
  Json.asDict Json.asJson

def toJson (payload : Payload) : Json :=
  .ofDict payload

/-- The entries that name a column of a table, with the column. -/
def known (payload : Payload) (table : Table) : List (Column × Json) :=
  payload.entries.filterMap fun entry => (table.column? entry.1).map fun c => (c, entry.2)

/-- The assignment of a value to a column by the parameter with the number. -/
def assign (entry : Column × Json) (position : Nat) : Assignment :=
  ⟨entry.1, .ofJson entry.2 entry.1.typeName, position⟩

/-- The assignments on a table, with parameters behind the first `offset`. -/
def assignments (payload : Payload) (table : Table) (offset : Nat) : List Assignment :=
  (payload.known table).mapIdx fun i entry => assign entry (offset + i + 1)

end Payload
end TableGateway
