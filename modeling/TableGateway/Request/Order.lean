import TableGateway.Catalog.Table
import TableGateway.Text.Delimited

/-!
# Order

A request orders rows by names, each up or down. On a table only the names of its columns count
(`Order.terms`); where none is left, rows are ordered by the first column of the primary key.
-/
namespace TableGateway

/-- Up or down. -/
inductive Direction where
  | ascending
  | descending
  deriving DecidableEq, Repr

/-- A name to order by. -/
structure OrderField where
  name : String
  direction : Direction
  deriving DecidableEq, Repr

/-- Names to order by, the first one first. -/
abbrev Order := List OrderField

namespace Direction

/-- The word for the direction. -/
def text : Direction → String
  | .ascending => "ASC"
  | .descending => "DESC"

/-- The direction of a word. -/
def ofText (word : String) : Except DecodeError Direction :=
  if word = "ASC" then .ok .ascending
  else if word = "DESC" then .ok .descending
  else .error (.unknownVariant word ["ASC", "DESC"])

/-- Reads the document: the word, or an object with the word as its only key and nothing behind it. -/
def ofJson : Reader Direction
  | .string word => ofText word
  | .object [(word, content)] => do
    let direction ← ofText word
    match content with
    | .null => return direction
    | other => throw (.wrongType other.found "unit")
  | .object _ => .error (.wrongValue .map "map with a single key")
  | other => .error (.wrongType other.found "string or map")

end Direction

namespace Order

/-- The field of one piece of a delimited order: a name, with a minus sign before it for down. -/
def fieldOfText? (piece : String) : Option OrderField :=
  match piece.toList with
  | '-' :: [] => none
  | '-' :: name => some ⟨String.ofList name, .descending⟩
  | _ => some ⟨piece, .ascending⟩

/-- The order of a delimited text. -/
def ofText (text : String) : Order :=
  (delimitedNames text).filterMap fieldOfText?

def ofQuery (query : Dict String) : Order :=
  ((query.get? "sort").map ofText).getD []

/-- The order by the first column of the primary key. -/
def byKey (table : Table) : Order :=
  match table.primaryKey? with
  | some key => [⟨key.name, .ascending⟩]
  | none => []

/-- The columns of a table to order by, with their directions. -/
def terms (order : Order) (table : Table) : List (Column × Direction) :=
  order.filterMap fun field => (table.column? field.name).map fun c => (c, field.direction)

/-- The clause for columns and directions; without any there is none. -/
def clause (terms : List (Column × Direction)) : String :=
  match terms with
  | [] => ""
  | terms => "ORDER BY " ++ ", ".intercalate (terms.map fun term => term.1.quotedName ++ " " ++ term.2.text)

/-- The clause on a table. -/
def text (order : Order) (table : Table) : String :=
  clause (order.terms table)

/-- The terms that rows of a table are listed by. -/
def effectiveTerms (order : Order) (table : Table) : List (Column × Direction) :=
  match order.terms table with
  | [] => (byKey table).terms table
  | terms => terms

end Order
end TableGateway
