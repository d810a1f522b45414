import TableGateway.Catalog.Table
import TableGateway.Request.Filter
import TableGateway.Sql.Parameter
import TableGateway.Text.LowerCase

/-!
# Conditions

What a filter means on a table. A search in no column at all holds for no row, so that it never means
every row.
-/
namespace TableGateway.Sql

/-- A condition on the rows of a table. -/
inductive Condition where
  /-- Every row. -/
  | all
  /-- No row. -/
  | nothing
  /-- The rows for which the caller's expression holds. -/
  | expression (expression : Expression)
  /-- The rows of which one of the columns matches the pattern. -/
  | matching (columns : List Column) (pattern : String)
  deriving DecidableEq, Repr

namespace Condition

/-- The pattern for texts that hold a text, in any case of letters. -/
def pattern (text : String) : String :=
  "%" ++ lowerCase text ++ "%"

/-- The test of one column. -/
def test (c : Column) : String :=
  c.quotedName ++ "::text ILIKE $1"

/-- The clause; without a restriction there is none. -/
def text : Condition → String
  | .all => ""
  | .nothing => "WHERE FALSE"
  | .expression e => "WHERE " ++ e.statement
  | .matching columns _ => "WHERE " ++ " OR ".intercalate (columns.map test)

/-- The parameters of the clause, from number 1 on. -/
def parameters : Condition → List Parameter
  | .all => []
  | .nothing => []
  | .expression e => e.arguments.map .text
  | .matching _ pattern => [.text pattern]

/-- How many of the parameters have a type that only the caller's expression determines. -/
def inferred : Condition → Nat
  | .expression e => e.arguments.length
  | _ => 0

end Condition
end TableGateway.Sql

namespace TableGateway

/-- What an expression means; a blank one restricts nothing. -/
def Expression.condition (e : Expression) : Sql.Condition :=
  if isBlankText e.statement then .all else .expression e

namespace Filter

/-- The columns of a table that a search looks at. -/
def searched (columns : List String) (table : Table) : List Column :=
  match columns with
  | [] => table.textColumns
  | columns => table.columnsNamed columns

/-- What a filter means on a table. -/
def condition (filter : Filter) (table : Table) : Sql.Condition :=
  match filter with
  | .none => .all
  | .expression e => e.condition
  | .search text columns =>
    match searched columns table with
    | [] => .nothing
    | columns => .matching columns (Sql.Condition.pattern text)

end Filter
end TableGateway
