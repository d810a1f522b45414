import TableGateway.Text.Blank
import TableGateway.Text.Delimited
import TableGateway.Dict

/-!
# Filters

A request restricts rows by an SQL expression of its own, with arguments for its references, or by a text to
search for. A text to search for goes before an expression, and a blank expression is none.
-/
namespace TableGateway

/-- An SQL expression as the caller wrote it, and the texts for its references. -/
structure Expression where
  statement : String
  arguments : List String
  deriving DecidableEq, Repr

/-- How a request restricts rows. A search without columns means all columns of text. -/
inductive Filter where
  | none
  | expression (expression : Expression)
  | search (text : String) (columns : List String)
  deriving DecidableEq, Repr

/-- An expression with its delimited arguments; nothing stands for no argument. -/
def Expression.ofText (statement arguments : String) : Expression :=
  ⟨statement, if arguments = "" then [] else splitText listDelimiter arguments⟩

namespace Filter

def ofQuery (query : Dict String) : Filter :=
  match query.get? "textFilters" with
  | some text =>
    if text ≠ "" then .search text (((query.get? "textFiltersCols").map delimitedNames).getD [])
    else ofStatement
  | Option.none => ofStatement
where
  /-- The filter that the query's expression is. -/
  ofStatement : Filter :=
    match query.get? "filters" with
    | some statement =>
      if isBlankText statement then .none
      else .expression (.ofText statement ((query.get? "filtersArgs").getD ""))
    | Option.none => .none

/-- Without a text to search for, a query means its expression. -/
theorem ofQuery_of_no_search {query : Dict String} (no_search : ∀ text, query.get? "textFilters" = some text → text = "") :
    ofQuery query = ofQuery.ofStatement query := by
  unfold ofQuery
  cases given : query.get? "textFilters" with
  | none => rfl
  | some text => simp [no_search text given]

/-- The filter with columns for a search that names none. -/
def withColumns (columns : List String) : Filter → Filter
  | .search text [] => .search text columns
  | filter => filter

end Filter
end TableGateway
