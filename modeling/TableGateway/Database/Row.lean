import TableGateway.Cell.Value
import TableGateway.Database.Request

/-!
# Rows

A row has the cells of a result under its columns. Its cells are taken by name or by place, and read as the
type that is expected; a cell that is none of that type fails with the column's name or place.
-/
namespace TableGateway

/-- A row with the columns of its result. -/
structure Row where
  columns : List ResultColumn
  cells : List RawCell
  deriving DecidableEq, Repr

def ResultSet.allRows (set : ResultSet) : List Row :=
  set.rows.map fun cells => ⟨set.columns, cells⟩

/-- Which cell of a row is meant. -/
inductive Place where
  | named (name : String)
  | index (i : Nat)
  deriving DecidableEq, Repr

/-- A reader of the bytes of a cell; it gives the reason why it cannot read them. -/
structure CellReader (α : Type) where
  /-- Holds for the types that the reader reads. -/
  reads : String → Bool
  read : List UInt8 → Option α
  /-- The value of NULL, if that is one. -/
  ofNull : Option α

namespace CellReader
variable {α : Type}

def text : CellReader String where
  reads type := type ∈ ["TEXT", "VARCHAR", "CHAR", "NAME", "UNKNOWN", "citext"]
  read := utf8Text?
  ofNull := none

/-- Reads an integer of so many bits, which is what the type of the name holds. -/
def integer (type : String) (bits : Nat) : CellReader Int where
  reads name := name = type
  read := Cell.integer? bits
  ofNull := none

def truth : CellReader Bool where
  reads type := type = "BOOL"
  read
    | b :: _ => some (b ≠ 0)
    | [] => none
  ofNull := none

def document : CellReader Json where
  reads type := type ∈ ["JSON", "JSONB"]
  read bytes := (Cell.versionedDocument? bytes).or (Cell.document? bytes)
  ofNull := none

/-- Reads a value that may be NULL. -/
def orNull (reader : CellReader α) : CellReader (Option α) where
  reads := reader.reads
  read bytes := (reader.read bytes).map some
  ofNull := some none

end CellReader

def Place.text : Place → String
  | .named name => shown name
  | .index i => i.repr

namespace Row
variable {α : Type}

/-- The column and the cell at a place; of columns with one name the last counts. -/
def cell (row : Row) (place : Place) : Except DatabaseError (ResultColumn × RawCell) :=
  let cells := row.columns.zip row.cells
  match place with
  | .named name =>
    match cells.reverse.find? fun entry => entry.1.name = name with
    | some entry => .ok entry
    | none => .error (.noColumn name)
  | .index i =>
    match cells[i]? with
    | some entry => .ok entry
    | none => .error (.noCell row.columns.length i)

/-- Reads the cell at a place. -/
def get (row : Row) (place : Place) (reader : CellReader α) : Except DatabaseError α := do
  let (column, bytes) ← row.cell place
  let value? := match bytes with
    | none => reader.ofNull
    | some bytes => if reader.reads column.type then reader.read bytes else none
  match value?, bytes with
  | some value, _ => return value
  | none, none => throw (.unreadable place.text "unexpected null; try decoding as an `Option`")
  | none, some _ =>
    throw (.unreadable place.text (if reader.reads column.type then "invalid value" else "mismatched types"))

/-- The values of all cells under their columns' names, of which the last one of a name counts. -/
def toJson (row : Row) : Json :=
  .ofMembers ((row.columns.zip row.cells).map fun (column, bytes) =>
    (column.name, Cell.value column.type bytes))

end Row

/-- The only row that is asked for: the first one. -/
def ResultSet.firstRow (set : ResultSet) : Except DatabaseError Row :=
  match set.allRows with
  | row :: _ => .ok row
  | [] => .error .noRow

end TableGateway
