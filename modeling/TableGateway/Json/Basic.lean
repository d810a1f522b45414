import TableGateway.Dict
import TableGateway.Number.Binary64

/-!
# JSON values

A JSON value is a tree. A number is an integer where it is written as one and fits 64 bits, and a
binary number otherwise. An object lists its members by increasing key (`WellFormed`) where it is made of a
dictionary, of members in any order, or by reading a text.
-/
namespace TableGateway

/-- A number of a document. -/
inductive Json.Number where
  | integer (value : Int)
  | float (value : Binary64)
  deriving DecidableEq, Repr

/-- A value of a document. -/
inductive Json where
  | null
  | bool (value : Bool)
  | number (value : Json.Number)
  | string (value : String)
  | array (items : List Json)
  | object (members : List (String × Json))
  deriving Repr

namespace Json

instance : Inhabited Json := ⟨.null⟩

def ofInt (n : Int) : Json := .number (.integer n)

def ofNat (n : Nat) : Json := .number (.integer n)

/-- The value of a binary number; one that is not finite has no number. -/
def ofFloat? (x : Option Binary64) : Json :=
  match x with
  | some x => .number (.float x)
  | none => .null

def ofTexts (items : List String) : Json := .array (items.map .string)

/-- The value of an optional text. -/
def ofText? (text : Option String) : Json :=
  match text with
  | some s => .string s
  | none => .null

/-- The object of members in any order, of which the last one at a key counts. -/
def ofMembers (members : List (String × Json)) : Json :=
  .object (Dict.ofList members).entries

def ofDict (d : Dict Json) : Json := .object d.entries

/-- The member of an object at a key. -/
def member? (key : String) : Json → Option Json
  | .object members => Dict.lookup key members
  | _ => none

mutual

/-- Holds when the members of every object within stand by increasing key. -/
def WellFormed : Json → Prop
  | .array items => WellFormedItems items
  | .object members => (members.map Prod.fst).Pairwise (· < ·) ∧ WellFormedMembers members
  | _ => True

/-- Holds when every item is well formed. -/
def WellFormedItems : List Json → Prop
  | [] => True
  | item :: rest => WellFormed item ∧ WellFormedItems rest

/-- Holds when every member's value is well formed. -/
def WellFormedMembers : List (String × Json) → Prop
  | [] => True
  | (_, value) :: rest => WellFormed value ∧ WellFormedMembers rest

end

end Json
end TableGateway
