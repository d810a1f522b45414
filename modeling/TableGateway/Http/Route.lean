import TableGateway.Http.Message

/-!
# Routes

The path of a request leads to a resource, or nowhere; a resource has an action for some methods. A name that
ends a path is not empty, one within it may be. Names stay encoded here.
-/
namespace TableGateway.Http

/-- What a path leads to. -/
inductive Resource where
  | health
  | readiness
  | version
  | rows (table : String)
  | view (table : String)
  | relatedRows (table id : String)
  | tables
  | definition (table : String)
  | schemaNames
  | statistics
  | settings (table : String)
  | sql
  deriving DecidableEq, Repr

/-- What is done with a resource. -/
inductive Action where
  | showHealth
  | showReadiness
  | showVersion
  | listRows (table : String)
  | insertRow (table : String)
  | updateRows (table : String)
  | deleteRows (table : String)
  | viewTable (table : String)
  | listRelated (table id : String)
  | changeRelated (table id : String)
  | listTables
  | showTable (table : String)
  | listSchemas
  | showStatistics
  | showSettings (table : String)
  | changeSettings (table : String)
  | runSql
  deriving DecidableEq, Repr

namespace Resource

/-- What the segments of a path lead to. -/
def ofSegments? : List String → Option Resource
  | ["", "health"] => some .health
  | ["", "ready"] => some .readiness
  | ["", "version"] => some .version
  | ["", "api", "data", table] => if table = "" then none else some (.rows table)
  | ["", "api", "data", table, "view"] => some (.view table)
  | ["", "api", "data", table, "relations", id] => if id = "" then none else some (.relatedRows table id)
  | ["", "api", "schema", "tables"] => some .tables
  | ["", "api", "schema", "tables", table] => if table = "" then none else some (.definition table)
  | ["", "api", "schema", "names"] => some .schemaNames
  | ["", "api", "schema", "stats"] => some .statistics
  | ["", "api", "schema", "settings", table] => if table = "" then none else some (.settings table)
  | ["", "api", "sql", "execute"] => some .sql
  | _ => none

/-- What a method does with a resource; the head of an answer is asked for as the answer is. -/
def action? (r : Resource) (method : Method) : Option Action :=
  match r, if method = .head then .get else method with
  | health, .get => some .showHealth
  | readiness, .get => some .showReadiness
  | version, .get => some .showVersion
  | rows table, .get => some (.listRows table)
  | rows table, .post => some (.insertRow table)
  | rows table, .put => some (.updateRows table)
  | rows table, .delete => some (.deleteRows table)
  | view table, .get => some (.viewTable table)
  | relatedRows table id, .get => some (.listRelated table id)
  | relatedRows table id, .put => some (.changeRelated table id)
  | tables, .get => some .listTables
  | definition table, .get => some (.showTable table)
  | schemaNames, .get => some .listSchemas
  | statistics, .get => some .showStatistics
  | settings table, .get => some (.showSettings table)
  | settings table, .patch => some (.changeSettings table)
  | sql, .post => some .runSql
  | _, _ => none

end Resource

/-- What a request asks for: none, with status 404, where its path leads nowhere, and with status 405 where
    its method does nothing. -/
def Request.action (r : Request) : Except Nat Action :=
  match Resource.ofSegments? r.segments with
  | none => .error 404
  | some resource =>
    match resource.action? r.method with
    | none => .error 405
    | some action => .ok action

end TableGateway.Http
