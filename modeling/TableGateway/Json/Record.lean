import TableGateway.Json.Decode

/-!
# Records from JSON

A record is read from an object by the names of its fields, or from an array by their order. In an object
the members are checked in the order they stand in, so the first faulty one counts; missing fields are
reported only then, in the order of the fields. Members without a field are passed over. An array may end
before fields that have a default, and may not go on behind the last field; where it ends too early, the first
field that has neither an item nor a default is the fault.
-/
namespace TableGateway

/-- Why the items of an array are no record. -/
inductive ItemsFault where
  /-- An item does not fit its field. -/
  | unfit (cause : DecodeError)
  /-- There is no item for the field with this index, which has no default. -/
  | missing (index : Nat)
  deriving DecidableEq, Repr

/-- How a record is read: the fields with their checks, in order; the record from the members of an
    object; the record from the items of an array, with the items left. -/
structure Record (α : Type) where
  fields : List (String × (Json → Except DecodeError Unit))
  ofMembers : List (String × Json) → Except DecodeError α
  ofItems : List Json → Except ItemsFault (α × List Json)

namespace Record
variable {α β : Type}

/-- The record without fields. -/
def start (value : α) : Record α where
  fields := []
  ofMembers _ := .ok value
  ofItems items := .ok (value, items)

/-- Adds a field. `absent` is read where an object has no such member, and `short`, if there is such a value,
    where an array has no such item. -/
def field (record : Record (β → α)) (name : String) (read : Reader β) (absent : Except DecodeError β)
    (short : Option β) : Record α where
  fields := record.fields ++ [(name, fun value => (read value).map fun _ => ())]
  ofMembers members := do
    let make ← record.ofMembers members
    let value ← match Dict.lookup name members with
      | some found => read found
      | none => absent
    return make value
  ofItems items := do
    let (make, left) ← record.ofItems items
    match left with
    | item :: rest =>
      match read item with
      | .ok value => return (make value, rest)
      | .error cause => throw (.unfit cause)
    | [] =>
      match short with
      | some value => return (make value, [])
      | none => throw (.missing record.fields.length)

/-- Adds a field that must be there. -/
def required (record : Record (β → α)) (name : String) (read : Reader β) : Record α :=
  record.field name read (.error (.missingField name)) none

/-- Adds a field with a value for when it is not there. -/
def withDefault (record : Record (β → α)) (name : String) (read : Reader β) (value : β) : Record α :=
  record.field name read (.ok value) (some value)

/-- Adds a field that may be null, and may be left out of an object though not of an array. -/
def optional (record : Record (Option β → α)) (name : String) (read : Reader β) : Record α :=
  record.field name (Json.nullable read) (.ok none) none

/-- Checks the members that have a field, in the order they stand in. -/
def check (record : Record α) : List (String × Json) → Except DecodeError Unit
  | [] => .ok ()
  | (name, value) :: rest => do
    match Dict.lookup name record.fields with
    | some read => read value
    | none => pure ()
    record.check rest

/-- The wording of what an array of a record's fields is. -/
def describe (record : Record α) (name : String) : String :=
  let count := record.fields.length
  "struct " ++ name ++ " with " ++ count.repr ++ (if count = 1 then " element" else " elements")

/-- Reads a record that the messages call `name`. -/
def decode (record : Record α) (name : String) : Reader α
  | .object members => do
    record.check members
    record.ofMembers members
  | .array items =>
    match record.ofItems items with
    | .ok (value, []) => .ok value
    | .ok (_, _ :: _) => .error (.wrongLength items.length "fewer elements in array")
    | .error (.unfit cause) => .error cause
    | .error (.missing index) => .error (.wrongLength index (record.describe name))
  | other => .error (.wrongType other.found ("struct " ++ name))

end Record
end TableGateway
