import TableGateway.Text.Blank

/-!
# Identities

Who sends a request stands in a header that the layer in front sets. Only texts of visible ASCII, blanks and
tabs count, and the blanks around one do not.
-/
namespace TableGateway.Http

/-- Who sends a request; nobody on public routes. -/
abbrev Identity := Option String

/-- Holds for the values of headers that are text. -/
def isHeaderText (value : String) : Bool :=
  value.toList.all fun c => c = '\t' || (0x20 ≤ c.toNat && c.toNat ≤ 0x7e)

namespace Identity

/-- The name of the header, in lower case. -/
def header : String := "x-authenticated-user"

/-- The identity that the value of the header gives. -/
def ofHeader (value : Option String) : Identity :=
  ((value.filter isHeaderText).map trimmed).filter (· ≠ "")

/-- The name of the sender in records of what was done. -/
def principal (identity : Identity) : String :=
  identity.getD "anonymous"

end Identity
end TableGateway.Http
