import TableGateway.Json.Reader
import TableGateway.Json.Record
import TableGateway.Json.Skip

/-!
# Records from text

A record is read while its text is, so the fault that counts is the one that comes first in the text: a value
that does not fit its field is found before a mistake behind it. Whether a value fits must show in its first
token, so fields hold texts or lists of any values. Members without a field are passed over, and what stands
behind the record is not looked at.
-/
namespace TableGateway

/-- Why a text gives no record. -/
inductive TextFault where
  /-- The text is no document. -/
  | malformed
  /-- The document is not of the record's shape. -/
  | unfit
  deriving DecidableEq, Repr

/-- A check of values. -/
abbrev Check := Json → Except DecodeError Unit

namespace Json

/-- The least value that starts with a token. -/
def Token.outline? : Token → Option Json
  | .scalar value => some value
  | .openArray => some (.array [])
  | .openObject => some (.object [])
  | _ => none

/-- Reads a value within a record, and checks its first token. -/
def readPart (check : Check) (text : List Char) : Except TextFault (Json × Shorter text) :=
  match (nextToken text).bind fun next => next.1.outline? with
  | none => .error .malformed
  | some outline =>
    match check outline with
    | .error _ => .error .unfit
    | .ok () =>
      match readWithin 1 text with
      | some part => .ok part
      | none => .error .malformed

/-- Reads the value of a member; without a field of the name it is passed over and not kept. -/
def readMember (fields : List (String × Check)) (name : String) (text : List Char) :
    Except TextFault (List (String × Json) × Shorter text) :=
  match Dict.lookup name fields with
  | some check => (readPart check text).map fun (value, rest) => ([(name, value)], rest)
  | none =>
    match passOver text with
    | some rest => .ok ([], rest)
    | none => .error .malformed

/-- Reads the members of an object from a key on; the object may end there only if `orEnd` holds. A field
    may not be given again. -/
def readMembers (fields : List (String × Check)) (found : List (String × Json)) (orEnd : Bool)
    (text : List Char) : Except TextFault (List (String × Json)) :=
  match nextToken text with
  | some (.closeObject, _) => if orEnd then .ok found else .error .malformed
  | some (.scalar (.string name), ⟨afterName, _⟩) =>
    if (Dict.lookup name found).isSome then .error .unfit
    else
      match nextToken afterName with
      | some (.colon, ⟨afterColon, _⟩) =>
        match readMember fields name afterColon with
        | .error fault => .error fault
        | .ok (member, ⟨afterValue, _⟩) =>
          match nextToken afterValue with
          | some (.comma, ⟨rest, _⟩) => readMembers fields (found ++ member) false rest
          | some (.closeObject, _) => .ok (found ++ member)
          | _ => .error .malformed
      | _ => .error .malformed
  | _ => .error .malformed
termination_by text.length

/-- Reads the items of an array, one for each field; a comma stands before all but the first. -/
def readItems (isFirst : Bool) : List (String × Check) → List Char → Except TextFault (List Json)
  | [], text =>
    match nextToken text with
    | some (.closeArray, _) => .ok []
    | _ => .error .malformed
  | (_, check) :: fields, text =>
    match nextToken text, isFirst with
    | some (.closeArray, _), _ => .ok []
    | some (.comma, ⟨rest, _⟩), false => readItem check fields rest
    | some _, true => readItem check fields text
    | _, _ => .error .malformed
where
  /-- Reads an item and those behind it. -/
  readItem (check : Check) (fields : List (String × Check)) (text : List Char) :
      Except TextFault (List Json) :=
    match readPart check text with
    | .error fault => .error fault
    | .ok (item, ⟨rest, _⟩) => (readItems false fields rest).map (item :: ·)

end Json

/-- Reads a record from the start of a text. -/
def Record.readText {α : Type} (record : Record α) (text : List Char) : Except TextFault α :=
  match Json.nextToken text with
  | some (.openObject, ⟨rest, _⟩) => do
    (record.ofMembers (← Json.readMembers record.fields [] true rest)).mapError fun _ => .unfit
  | some (.openArray, ⟨rest, _⟩) => do
    ((record.ofItems (← Json.readItems true record.fields rest)).map (·.1)).mapError fun _ => .unfit
  | some (.scalar _, _) => .error .unfit
  | _ => .error .malformed

end TableGateway
