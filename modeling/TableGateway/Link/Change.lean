import TableGateway.Link.Resolution
import TableGateway.Sql.Statement

/-!
# Linked rows and changes of links

The rows that a row is linked to are read by one statement. A change of links is a list of steps, all
removals before all additions (`Link.plan`); a link in both directions is removed or added with its reverse
right behind it.
-/
namespace TableGateway

/-- The rows to link and the rows to unlink, by their keys. -/
structure LinkChange where
  added : List Json
  deleted : List Json
  deriving Repr

namespace LinkChange

def record : Record LinkChange :=
  Record.start LinkChange.mk
    |>.withDefault "addIds" (Json.asList Json.asJson) []
    |>.withDefault "deleteIds" (Json.asList Json.asJson) []

def ofJson : Reader LinkChange :=
  record.decode "UpdateRelatedRowsActions"

def toJson (c : LinkChange) : Json :=
  .object [("addIds", .array c.added), ("deleteIds", .array c.deleted)]

end LinkChange

/-- A step of a change: a pair of keys that is linked or unlinked. -/
inductive LinkStep where
  | remove (main related : Sql.Parameter)
  | add (main related : Sql.Parameter)
  deriving DecidableEq, Repr

namespace Link

/-- A column of a table with the table's name. -/
def dotted (table : Table) (c : Column) : String :=
  table.quotedName ++ "." ++ c.quotedName

/-- Reads the rows that a row of the main table is linked to. -/
def relatedRows (link : Link) (id : Sql.Parameter) : Sql.Statement where
  text :=
    "SELECT " ++ ", ".intercalate (link.related.columns.map (dotted link.related)) ++ " FROM " ++
      link.related.quotedName ++ " JOIN " ++ link.join.quotedName ++ " ON " ++
      dotted link.join link.relatedColumn ++ " = " ++ dotted link.related link.keyColumn ++ " WHERE " ++
      dotted link.join link.mainColumn ++ " = " ++ link.mainColumn.placeholder 1
  parameters := [id]
  inferred := 0

/-- Removes a link: the main key is the first parameter, the related key the second. -/
def removeText (link : Link) : String :=
  "DELETE FROM " ++ link.join.quotedName ++ " WHERE " ++ link.mainColumn.quotedName ++ " = " ++
    link.mainColumn.placeholder 1 ++ " AND " ++ link.relatedColumn.quotedName ++ " = " ++
    link.relatedColumn.placeholder 2

/-- Adds a link, unless it is there. -/
def addText (link : Link) : String :=
  let columns := link.mainColumn.quotedName ++ ", " ++ link.relatedColumn.quotedName
  "INSERT INTO " ++ link.join.quotedName ++ " (" ++ columns ++ ") VALUES (" ++ link.mainColumn.placeholder 1 ++
    ", " ++ link.relatedColumn.placeholder 2 ++ ") ON CONFLICT (" ++ columns ++ ") DO NOTHING"

/-- The pairs of keys between a row and others, each with its reverse when the relation goes both ways. -/
def pairs (link : Link) (id : Sql.Parameter) (others : List Json) : List (Sql.Parameter × Sql.Parameter) :=
  others.flatMap fun other =>
    let key := Sql.Parameter.ofJson other link.relatedColumn.typeName
    if link.relation.bidirectional then [(id, key), (key, id)] else [(id, key)]

/-- The steps of a change, in order. -/
def plan (link : Link) (id : Sql.Parameter) (change : LinkChange) : List LinkStep :=
  (link.pairs id change.deleted).map (fun pair => .remove pair.1 pair.2) ++
    (link.pairs id change.added).map (fun pair => .add pair.1 pair.2)

def stepText (link : Link) : LinkStep → String
  | .remove .. => link.removeText
  | .add .. => link.addText

end Link

/-- The parameters of a step's statement. -/
def LinkStep.parameters : LinkStep → List Sql.Parameter
  | .remove main related => [main, related]
  | .add main related => [main, related]

end TableGateway
