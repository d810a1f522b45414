import TableGateway.Catalog.Loading
import TableGateway.Catalog.Statistics
import TableGateway.Configuration
import TableGateway.Http.Body
import TableGateway.Http.Route
import TableGateway.Link.Rows
import TableGateway.Rows.Raw
import TableGateway.Rows.Table
import TableGateway.Settings.Store

/-!
# The service

A request is refused by a bare status, or becomes a call. What it needs is read in a fixed order: names in
the path, then the query, then the body. The cause of a call that fails becomes the answer.
-/
namespace TableGateway.Http

/-- The name and the version that the service gives. -/
def versionDocument : Json :=
  .object [("name", .string "pgdeck"), ("version", .string "0.1.0")]

/-- A name in a path. -/
def acceptName (segment : String) : Accepted String :=
  match percentText? segment with
  | some name => .ok name
  | none => .error 400

/-- The relation that the query describes from a table. -/
def Request.relation (r : Request) (mainTable : String) : Accepted Relation :=
  match RelationQuery.ofForm? r.fields with
  | some query => .ok (query.relation mainTable)
  | none => .error 400

/-- Whether the query asks to reload the tables. -/
def Request.reload (r : Request) : Accepted Bool :=
  match RelationQuery.single? r.fields "reload" with
  | some none => .ok false
  | some (some text) =>
    match RelationQuery.truth? text with
    | some reload => .ok reload
    | none => .error 400
  | none => .error 400

def payloadOf (body : Json) : Call Payload :=
  match body with
  | .object members => .done (.ofList members)
  | _ => .fail (.badRequest "body must be a JSON object")

/-! ## Answers -/

namespace Answer

/-- Whether the database answers. -/
def readiness : Call Response := do
  let count := (← Call.tables).size
  let state := fun (status : Nat) (word database : String) =>
    (⟨status, some (.object [("database", .string database), ("status", .string word),
      ("tables", .ofNat count)])⟩ : Response)
  match ← Call.attempt (Call.execute "SELECT 1" []) with
  | .ok _ => return state 200 "ok" "ok"
  | .error _ => return state 503 "degraded" "unavailable"

def listRows (c : Configuration) (name : String) (query : Dict String) : Call Response := do
  let table ← Call.table name
  return .many (← table.list (.ofQuery query c.maxPageLimit))

def insertRow (name : String) (body : Json) : Call Response := do
  let table ← Call.table name
  return .created (← table.insert (← payloadOf body))

def updateRows (name : String) (query : Dict String) (body : Json) : Call Response := do
  let table ← Call.table name
  return .many (← table.update (.ofQuery query) (← payloadOf body))

def deleteRows (name : String) (query : Dict String) : Call Response := do
  let table ← Call.table name
  return .many (← table.delete (.ofQuery query))

/-- Lists the rows of a table under its settings. -/
def viewTable (c : Configuration) (name : String) (query : Dict String) : Call Response := do
  let table ← Call.table name
  let settings ← Call.settings table
  return .one (← table.view (.ofQuery query c.maxPageLimit) settings).toJson

/-- Lists the rows that a row is linked to. -/
def listRelated (relation : Relation) (id : String) : Call Response := do
  let link ← Call.link relation
  return .many (← link.fetch id)

/-- Changes the links of a row, and lists the rows that it is linked to then. -/
def changeRelated (relation : Relation) (id : String) (change : LinkChange) : Call Response := do
  let link ← Call.link relation
  link.change id change
  return .many (← link.fetch id)

/-- Lists the tables, reloaded if that is asked for. -/
def listTables (c : Configuration) (reload : Bool) : Call Response := do
  let tables ← if reload then Call.reloadTables c.schemaName c.includedTables else Call.tables
  return .one tables.toJson

def showTable (name : String) : Call Response := do
  return .one (← Call.table name).toJson

def showSettings (name : String) : Call Response := do
  let table ← Call.table name
  return .one (← Call.settings table).toJson

def changeSettings (c : Configuration) (name : String) (body : Json) : Call Response := do
  let table ← Call.table name
  return .one (← Call.updateSettings c.settingsSchema table body).toJson

def listSchemas : Call Response := do
  return .one (.ofTexts (← Call.schemaNames))

def showStatistics (c : Configuration) : Call Response := do
  return .one (← Call.statistics c.schemaName).toJson

def runSql (request : RawSql) : Call Response := do
  return .one (← request.run).toJson

end Answer

/-! ## Requests -/

/-- The call of an action, once what it needs is read from the request. -/
def Action.accept (c : Configuration) (r : Request) : Action → Accepted (Call Response)
  | .showHealth => return .done ⟨200, some (.object [("status", .string "ok")])⟩
  | .showReadiness => return Answer.readiness
  | .showVersion => return .done ⟨200, some versionDocument⟩
  | .listRows table => return Answer.listRows c (← acceptName table) r.query
  | .insertRow table => return Answer.insertRow (← acceptName table) (← r.json c.bodyLimit)
  | .updateRows table => return Answer.updateRows (← acceptName table) r.query (← r.json c.bodyLimit)
  | .deleteRows table => return Answer.deleteRows (← acceptName table) r.query
  | .viewTable table => return Answer.viewTable c (← acceptName table) r.query
  | .listRelated table id => do
    let table ← acceptName table
    let id ← acceptName id
    return Answer.listRelated (← r.relation table) id
  | .changeRelated table id => do
    let table ← acceptName table
    let id ← acceptName id
    let relation ← r.relation table
    return Answer.changeRelated relation id (← r.record c.bodyLimit LinkChange.record)
  | .listTables => return Answer.listTables c (← r.reload)
  | .showTable table => return Answer.showTable (← acceptName table)
  | .listSchemas => return Answer.listSchemas
  | .showStatistics => return Answer.showStatistics c
  | .showSettings table => return Answer.showSettings (← acceptName table)
  | .changeSettings table => return Answer.changeSettings c (← acceptName table) (← r.json c.bodyLimit)
  | .runSql => return Answer.runSql (← r.record c.bodyLimit RawSql.record)

/-- The response to what a call gave. -/
def Response.ofOutcome : Except Error Response → Response
  | .ok response => response
  | .error cause => .ofError cause

/-- Drops the document of a response when only its head is asked for. -/
def Response.forMethod (response : Response) (method : Method) : Response :=
  if method = .head then { response with body := none } else response

/-- The call that a request becomes, or the status that refuses it. A body that is said to be too long is
    refused before all else. -/
def accept (c : Configuration) (r : Request) : Accepted (Call Response) := do
  if r.saidLength?.any (c.bodyLimit < ·) then throw 413
  (← r.action).accept c r

def serve (c : Configuration) (r : Request) : Call Response :=
  match accept c r with
  | .error status => .done (.bare status)
  | .ok call => do return (Response.ofOutcome (← Call.attempt call)).forMethod r.method

end TableGateway.Http
