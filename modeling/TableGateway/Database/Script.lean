import TableGateway.Database.Request

/-!
# Scripted databases

A database that gives the replies of a list, one after the other, and keeps what it received. Every statement
and every question for a description takes the next reply. Marks of a transaction succeed without taking one,
unless the next reply refuses just that mark. A database behind an outage receives nothing.
-/
namespace TableGateway

/-- A reply that a database will give. -/
inductive Reply where
  | result (set : ResultSet)
  | refusal (reason : String)
  | description (value : Description)
  | noDescription (reason : String)
  | refusedMark (mark : TransactionMark) (reason : String)
  deriving DecidableEq, Repr

/-- Why nothing can be reached: over the network, at a socket, or for want of an address for a name. -/
structure Outage where
  network : String
  socket : String
  name : String
  deriving DecidableEq, Repr

/-- Why an endpoint cannot be reached. -/
def Outage.reason (outage : Outage) : Endpoint → String
  | .socket _ => outage.socket
  | .address _ => outage.network
  | .named _ => outage.name

/-- A database: why it cannot be reached, if so, its replies to come, and what it received, the last first. -/
structure Database where
  outage : Option Outage
  replies : List Reply
  received : List Database.Request

namespace Database

/-- The database once it received a request. -/
def receive (db : Database) (request : Request) : Database :=
  { db with received := request :: db.received }

/-- The reply to a statement, and the replies behind it. -/
def nextResult : List Reply → Except DatabaseError ResultSet × List Reply
  | .result set :: rest => (.ok set, rest)
  | .refusal reason :: rest => (.error (.refused reason), rest)
  | _ :: rest => (.error .closed, rest)
  | [] => (.error .closed, [])

/-- The reply to the question for a description, and the replies behind it. -/
def nextDescription : List Reply → Except DatabaseError Description × List Reply
  | .description value :: rest => (.ok value, rest)
  | .noDescription reason :: rest => (.error (.refused reason), rest)
  | _ :: rest => (.error .closed, rest)
  | [] => (.error .closed, [])

/-- The reply to a mark, and the replies behind it. -/
def nextMark (mark : TransactionMark) : List Reply → Except DatabaseError Unit × List Reply
  | .refusedMark refused reason :: rest =>
    if refused = mark then (.error (.refused reason), rest) else (.ok (), .refusedMark refused reason :: rest)
  | replies => (.ok (), replies)

/-- The answer of a database that can be reached. -/
def reply (db : Database) : (request : Request) → request.Answer × Database
  | .execute sql arguments =>
    let (answer, replies) := nextResult db.replies
    (answer, { db.receive (.execute sql arguments) with replies })
  | .describe sql =>
    let (answer, replies) := nextDescription db.replies
    (answer, { db.receive (.describe sql) with replies })
  | .transaction mark =>
    let (answer, replies) := nextMark mark db.replies
    (answer, { db.receive (.transaction mark) with replies })
  | .connect endpoint database => (.ok (), db.receive (.connect endpoint database))

/-- The answer that says that the database cannot be reached. -/
def unreachable (outage : Outage) : (request : Request) → request.Answer
  | .execute .. => .error (.unreachable outage.network)
  | .describe _ => .error (.unreachable outage.network)
  | .transaction _ => .error (.unreachable outage.network)
  | .connect endpoint _ => .error (.unreachable (outage.reason endpoint))

def answer (db : Database) (request : Request) : request.Answer × Database :=
  match db.outage with
  | some outage => (unreachable outage request, db)
  | none => db.reply request

end Database
end TableGateway
