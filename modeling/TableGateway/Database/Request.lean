import TableGateway.Error
import TableGateway.Sql.Parameter

/-!
# Requests to the database

What a gateway sends to a database and what it may get back. Values go out as text, as arrays or as
documents; cells come back as bytes in the binary form of their column's type.
-/
namespace TableGateway

/-- A value that is sent with a statement. -/
inductive Argument where
  | parameter (value : Sql.Parameter)
  | texts (items : List String)
  | numbers (items : List Int)
  | document (value : Json)
  deriving Repr

structure ResultColumn where
  name : String
  type : String
  deriving DecidableEq, Repr

/-- A cell: its bytes, unless it is NULL. -/
abbrev RawCell := Option (List UInt8)

/-- What a statement gave: rows of cells in the order of the columns, and how many rows it touched. -/
structure ResultSet where
  columns : List ResultColumn
  rows : List (List RawCell)
  affected : Nat
  deriving DecidableEq, Repr

/-- What the database tells of a statement without running it: the type numbers of its parameters, if it
    gives them, and the names of its columns. -/
structure Description where
  parameters : Option (List Nat)
  columns : List String
  deriving DecidableEq, Repr

/-- The marks of a transaction. -/
inductive TransactionMark where
  | start
  | commit
  | rollback
  deriving DecidableEq, Repr

/-- The word of a mark. -/
def TransactionMark.word : TransactionMark → String
  | .start => "BEGIN"
  | .commit => "COMMIT"
  | .rollback => "ROLLBACK"

/-- Where the server of a connection listens: at a socket of the machine, at a known address, or at an address
    that is still to be looked up by its name. -/
inductive Endpoint where
  | socket (folder : String)
  | address (text : String)
  | named (host : String)
  deriving DecidableEq, Repr

namespace Database

/-- What a gateway sends to a database. -/
inductive Request where
  /-- Runs a statement. -/
  | execute (sql : String) (arguments : List Argument)
  /-- Asks for the description of a statement. -/
  | describe (sql : String)
  /-- Starts or ends a transaction. -/
  | transaction (mark : TransactionMark)
  /-- Opens a connection of its own, to a database of the server or to the one that the server chooses. -/
  | connect (endpoint : Endpoint) (database : Option String)
  deriving Repr

/-- What comes back for a request. -/
abbrev Request.Answer : Request → Type
  | .execute .. => Except DatabaseError ResultSet
  | .describe _ => Except DatabaseError Description
  | .transaction _ => Except DatabaseError Unit
  | .connect .. => Except DatabaseError Unit

end Database
end TableGateway
