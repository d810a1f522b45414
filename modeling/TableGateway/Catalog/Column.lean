import TableGateway.Json.Record
import TableGateway.Sql.Identifier
import TableGateway.Text.Integer

/-!
# Columns

A column of a table as the catalog describes it. Values reach it as text through its placeholder, which
converts them to the column's type (`Column.exists_placeholder_eq`), and tells the number of its parameter
(`Column.placeholder_inj`).
-/
namespace TableGateway

/-- The target of a foreign key. -/
structure ForeignKey where
  tableName : String
  columnName : String
  constraintName : String
  deriving DecidableEq, Repr

/-- A column. `typeName` is the canonical name of its type, as casts write it. -/
structure Column where
  name : String
  oid : Int32
  typeName : String
  udtName : String
  isText : Bool
  isNullable : Bool
  default : Option String
  isPrimaryKey : Bool
  foreignKey : Option ForeignKey
  deriving DecidableEq, Repr

/-- The type numbers of `text` and `character varying`. -/
def isTextOid (oid : Int32) : Bool :=
  oid = 25 || oid = 1043

/-- The number of a parameter, as a reference to it. -/
def reference (n : Nat) : String :=
  "$" ++ n.repr

theorem toList_reference (n : Nat) : (reference n).toList = '$' :: Nat.toDigits 10 n := by
  simp [reference, Nat.repr]

namespace Column

/-- The name as a quoted identifier. -/
def quotedName (c : Column) : String :=
  Sql.quoted c.name

/-- The `n`-th parameter, which is text, as a value of the column. -/
def placeholder (c : Column) (n : Nat) : String :=
  if c.typeName = "" ∨ c.typeName = "text" then reference n ++ "::text"
  else reference n ++ "::text::" ++ c.typeName

/-- A placeholder is the reference to its parameter, which is text, with a cast to the column's type if need be.
    The cast is the same for every number. -/
theorem exists_placeholder_eq (c : Column) :
    ∃ cast, (cast = "" ∨ cast = "::" ++ c.typeName) ∧ ∀ n, c.placeholder n = reference n ++ "::text" ++ cast := by
  by_cases plain : c.typeName = "" ∨ c.typeName = "text"
  · refine ⟨"", .inl rfl, fun n => ?_⟩
    rw [placeholder, if_pos plain, String.append_empty]
  · refine ⟨"::" ++ c.typeName, .inr rfl, fun n => ?_⟩
    have joined : "::text::" = "::text" ++ "::" := by decide
    rw [placeholder, if_neg plain, joined, ← String.append_assoc, String.append_assoc]

theorem digits_placeholder (c : Column) (n : Nat) :
    ((c.placeholder n).toList.drop 1).takeWhile Char.isDigit = Nat.toDigits 10 n := by
  obtain ⟨cast, -, shown⟩ := c.exists_placeholder_eq
  have digits : ∀ d ∈ Nat.toDigits 10 n, d.isDigit = true :=
    fun d => Nat.isDigit_of_mem_toDigits (by decide) (by decide)
  have behind : ("::text" ++ cast).toList.takeWhile Char.isDigit = [] := by simp
  rw [shown, String.append_assoc, String.toList_append, toList_reference, List.cons_append, List.drop_succ_cons,
    List.drop_zero, List.takeWhile_append_of_pos digits, behind, List.append_nil]

/-- Placeholders with different numbers differ, whatever their columns. -/
theorem placeholder_inj {c c' : Column} {n n' : Nat} (same : c.placeholder n = c'.placeholder n') : n = n' := by
  have digits : Nat.toDigits 10 n = Nat.toDigits 10 n' := by
    rw [← c.digits_placeholder, same, c'.digits_placeholder]
  calc
    n = Nat.ofDigitChars 10 (Nat.toDigits 10 n) 0 := Nat.ofDigitChars_ten_toDigits.symm
    _ = Nat.ofDigitChars 10 (Nat.toDigits 10 n') 0 := by rw [digits]
    _ = n' := Nat.ofDigitChars_ten_toDigits

/-- Holds when the column has a foreign key to the table. -/
def references (c : Column) (table : String) : Bool :=
  c.foreignKey.any fun key => key.tableName = table

end Column

/-! ## Documents -/

namespace Json

/-- The member of an object, if there is a value for it. -/
def memberIf (name : String) (value : Option Json) : List (String × Json) :=
  match value with
  | some value => [(name, value)]
  | none => []

end Json

namespace ForeignKey

def record : Record ForeignKey :=
  Record.start ForeignKey.mk
    |>.required "tableName" Json.asText
    |>.required "columnName" Json.asText
    |>.required "constraintName" Json.asText

def ofJson : Reader ForeignKey :=
  record.decode "ForeignKeyInfo"

def toJson (key : ForeignKey) : Json :=
  .object [("columnName", .string key.columnName), ("constraintName", .string key.constraintName),
    ("tableName", .string key.tableName)]

end ForeignKey

namespace Column

def record : Record Column :=
  Record.start Column.mk
    |>.required "name" Json.asText
    |>.required "oid" Json.asInt32
    |>.required "regType" Json.asText
    |>.required "udtName" Json.asText
    |>.required "isText" Json.asBool
    |>.required "isNullable" Json.asBool
    |>.withDefault "default" (Json.nullable Json.asText) none
    |>.required "isPrimaryKey" Json.asBool
    |>.withDefault "foreignKey" (Json.nullable ForeignKey.ofJson) none

def ofJson : Reader Column :=
  record.decode "Column"

/-- The document of a column; it leaves out what the column has not. -/
def toJson (c : Column) : Json :=
  .object (Json.memberIf "default" (c.default.map .string) ++
    Json.memberIf "foreignKey" (c.foreignKey.map ForeignKey.toJson) ++
    [("isNullable", .bool c.isNullable), ("isPrimaryKey", .bool c.isPrimaryKey), ("isText", .bool c.isText),
      ("name", .string c.name), ("oid", .ofInt c.oid.toInt), ("regType", .string c.typeName),
      ("udtName", .string c.udtName)])

end Column
end TableGateway
