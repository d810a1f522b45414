import TableGateway.Request.Filter
import TableGateway.Request.Order
import TableGateway.Request.Page
import TableGateway.Request.Selection

/-!
# Listings

A request for rows: which columns, which rows, in which order, and which page of them.
-/
namespace TableGateway

structure Listing where
  selection : Selection
  filter : Filter
  page : Page
  order : Order
  deriving DecidableEq, Repr

namespace Listing

/-- All columns of the first rows. -/
def standard : Listing := ⟨[], .none, .first, []⟩

/-- The listing of a query, with the greatest limit. -/
def ofQuery (query : Dict String) (greatest : UInt32) : Listing where
  selection := .ofQuery query
  filter := .ofQuery query
  page := .ofQuery query greatest
  order := .ofQuery query

end Listing
end TableGateway
