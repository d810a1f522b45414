import TableGateway.Catalog.Column

/-!
# Relations

A relation says which rows of one table are linked to which rows of another, by the rows of a join table. The
columns to join by may be named; otherwise the foreign keys tell them.
-/
namespace TableGateway

/-- A relation between the rows of two tables. -/
structure Relation where
  mainTable : String
  relationTable : String
  joinTable : String
  bidirectional : Bool
  mainJoinColumn : Option String
  relationJoinColumn : Option String
  deriving DecidableEq, Repr

namespace Relation

def record : Record Relation :=
  Record.start Relation.mk
    |>.required "mainTable" Json.asText
    |>.required "relationTable" Json.asText
    |>.required "joinTable" Json.asText
    |>.withDefault "bidirectional" Json.asBool false
    |>.withDefault "mainJoinColumn" (Json.nullable Json.asText) none
    |>.withDefault "relationJoinColumn" (Json.nullable Json.asText) none

def ofJson : Reader Relation :=
  record.decode "RelationsConfig"

/-- The document of a relation; it leaves out columns that are not named. -/
def toJson (r : Relation) : Json :=
  .object ([("bidirectional", .bool r.bidirectional), ("joinTable", .string r.joinTable)] ++
    Json.memberIf "mainJoinColumn" (r.mainJoinColumn.map .string) ++
    [("mainTable", .string r.mainTable)] ++
    Json.memberIf "relationJoinColumn" (r.relationJoinColumn.map .string) ++
    [("relationTable", .string r.relationTable)])

end Relation

/-- A relation without its main table, which the caller gives elsewhere. -/
structure RelationQuery where
  relationTable : String
  joinTable : String
  bidirectional : Bool
  mainJoinColumn : Option String
  relationJoinColumn : Option String
  deriving DecidableEq, Repr

namespace RelationQuery

/-- The relation from the given main table. -/
def relation (q : RelationQuery) (mainTable : String) : Relation where
  mainTable := mainTable
  relationTable := q.relationTable
  joinTable := q.joinTable
  bidirectional := q.bidirectional
  mainJoinColumn := q.mainJoinColumn
  relationJoinColumn := q.relationJoinColumn

def record : Record RelationQuery :=
  Record.start RelationQuery.mk
    |>.required "relationTable" Json.asText
    |>.required "joinTable" Json.asText
    |>.withDefault "bidirectional" Json.asBool false
    |>.optional "mainJoinColumn" Json.asText
    |>.optional "relationJoinColumn" Json.asText

def ofJson : Reader RelationQuery :=
  record.decode "RelationQuery"

/-- A field of a form, which may not be given twice. -/
def single? (fields : List (String × String)) (name : String) : Option (Option String) :=
  match fields.filter fun field => field.1 = name with
  | [] => some none
  | [field] => some (some field.2)
  | _ => none

/-- A truth value of a form. -/
def truth? (text : String) : Option Bool :=
  if text = "true" then some true else if text = "false" then some false else none

/-- Reads the fields of a form. -/
def ofForm? (fields : List (String × String)) : Option RelationQuery := do
  let relationTable ← (← single? fields "relationTable")
  let joinTable ← (← single? fields "joinTable")
  let bidirectional ← match ← single? fields "bidirectional" with
    | some text => truth? text
    | none => some false
  let mainJoinColumn ← single? fields "mainJoinColumn"
  let relationJoinColumn ← single? fields "relationJoinColumn"
  return { relationTable, joinTable, bidirectional, mainJoinColumn, relationJoinColumn }

end RelationQuery
end TableGateway
