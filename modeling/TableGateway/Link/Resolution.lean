import TableGateway.Catalog.Table
import TableGateway.Error
import TableGateway.Link.Relation

/-!
# Links

A link is a relation with its tables and the columns to join by, found in the catalog. A join column is the
first foreign key of the join table to the table of its side that the relation does not rule out: by naming
another one, or by giving it to the other side.
-/
namespace TableGateway

/-- A relation that the catalog resolves. -/
structure Link where
  relation : Relation
  main : Table
  related : Table
  join : Table
  /-- The column of the join table that refers to the main table. -/
  mainColumn : Column
  /-- The column of the join table that refers to the related table. -/
  relatedColumn : Column
  /-- The column of the related table that is referred to. -/
  keyColumn : Column
  deriving DecidableEq, Repr

namespace Link

/-- The table of a role. -/
def tableOf (tables : Tables) (role name : String) : Except LinkError Table :=
  match tables.get? name with
  | some table => .ok table
  | none => .error (.noTable role name)

/-- Holds when a column may join: it is not the excluded one, and has the name that is asked for. -/
def mayJoin (named excluded : Option String) (c : Column) : Bool :=
  some c.name ≠ excluded && named.all fun name => c.name = name

/-- The first foreign key of the join table to the target that may join. -/
def joinColumn (join : Table) (target : String) (named excluded : Option String) (side : String) :
    Except LinkError Column :=
  match (join.foreignKeysTo target).find? (mayJoin named excluded) with
  | some c => .ok c
  | none => .error (.noColumn side join.name)

/-- The column of a table that a foreign key refers to. -/
def referredColumn? (c : Column) (table : Table) : Option Column :=
  c.foreignKey.bind fun key => table.column? key.columnName

def resolve (tables : Tables) (relation : Relation) : Except LinkError Link := do
  let main ← tableOf tables "main" relation.mainTable
  let related ← tableOf tables "relation" relation.relationTable
  let join ← tableOf tables "join" relation.joinTable
  let mainColumn ←
    joinColumn join main.name relation.mainJoinColumn relation.relationJoinColumn "main join column"
  let relatedColumn ←
    joinColumn join related.name relation.relationJoinColumn (some mainColumn.name) "relation join column"
  match referredColumn? relatedColumn related with
  | some keyColumn => return { relation, main, related, join, mainColumn, relatedColumn, keyColumn }
  | none => throw (.noColumn "referenced relation column" join.name)

end Link
end TableGateway
