import TableGateway.Http.Message
import TableGateway.Json.Incremental

/-!
# Bodies

A body is read only when it is needed. It must be said to hold a document, must not be longer than is allowed,
and must start with one. A body that cannot be read gives the status of the refusal.
-/
namespace TableGateway.Http

/-- A value, or the status that refuses the request. -/
abbrev Accepted (α : Type) := Except Nat α

/-- The greatest number of bytes that a body may have in any case. -/
def greatestBody : Nat := 2 * 1024 * 1024

namespace Request

/-- The greatest number of bytes that may be read: neither more than is allowed nor more than is said. -/
def readLimit (r : Request) (limit : Nat) : Nat :=
  min (min limit (r.saidLength?.getD limit)) greatestBody

/-- The characters of the body. -/
def document (r : Request) (limit : Nat) : Accepted (List Char) :=
  if !((r.header? "content-type").filter isHeaderText).any isJsonType then .error 415
  else if r.readLimit limit < r.body.utf8ByteSize then .error 413
  else .ok r.body.toList

/-- The value that the body starts with. -/
def json (r : Request) (limit : Nat) : Accepted Json := do
  match Json.readFirst (← r.document limit) with
  | some (value, _) => return value
  | none => throw 400

/-- The record that the body starts with. -/
def record {α : Type} (r : Request) (limit : Nat) (record : Record α) : Accepted α := do
  match record.readText (← r.document limit) with
  | .ok value => return value
  | .error .malformed => throw 400
  | .error .unfit => throw 422

end Request
end TableGateway.Http
