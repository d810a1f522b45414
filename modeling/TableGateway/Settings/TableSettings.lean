import TableGateway.Catalog.Table
import TableGateway.Link.Relation

/-!
# Settings of a table

How a table is shown: a pattern for links, the columns of its view and of its search, the inputs of its
columns, and its relations. Settings are kept as a document; changes are laid over the document member by
member, and what comes out must be settings again (`merge`).
-/
namespace TableGateway

/-- The input that a column is edited with. -/
structure InputOverride where
  kind : String
  isArray : Bool
  payload : Json
  deriving Repr

structure TableSettings where
  linkPattern : String
  viewColumns : List String
  searchColumns : List String
  inputs : Dict InputOverride
  relations : List Relation

namespace InputOverride

def record : Record InputOverride :=
  Record.start InputOverride.mk
    |>.required "type" Json.asText
    |>.withDefault "isArray" Json.asBool false
    |>.withDefault "payload" Json.asJson .null

def ofJson : Reader InputOverride :=
  record.decode "InputTypeLookup"

def toJson (input : InputOverride) : Json :=
  .object [("isArray", .bool input.isArray), ("payload", input.payload), ("type", .string input.kind)]

end InputOverride

namespace TableSettings

/-- Settings that say nothing. -/
def blank : TableSettings := ⟨"", [], [], .empty, []⟩

def record : Record TableSettings :=
  Record.start TableSettings.mk
    |>.withDefault "viewLinkPattern" Json.asText ""
    |>.withDefault "tableViewSelectColumns" (Json.asList Json.asText) []
    |>.withDefault "tableViewTextFiltersCols" (Json.asList Json.asText) []
    |>.withDefault "overriddenInputs" (Json.asDict InputOverride.ofJson) .empty
    |>.withDefault "relations" (Json.asList Relation.ofJson) []

def ofJson : Reader TableSettings :=
  record.decode "TableSettings"

/-- The document of settings; it leaves out what is empty, the lists of columns apart. -/
def toJson (s : TableSettings) : Json :=
  let inputs := if s.inputs.isEmpty then none else some (.ofDict (s.inputs.map InputOverride.toJson))
  let relations := if s.relations.isEmpty then none else some (.array (s.relations.map Relation.toJson))
  let linkPattern := if s.linkPattern = "" then none else some (.string s.linkPattern)
  .object (Json.memberIf "overriddenInputs" inputs ++ Json.memberIf "relations" relations ++
    [("tableViewSelectColumns", .ofTexts s.viewColumns),
      ("tableViewTextFiltersCols", .ofTexts s.searchColumns)] ++
    Json.memberIf "viewLinkPattern" linkPattern)

/-- The settings with the table's columns where they name none: all for the view, those of text for the
    search. -/
def withDefaults (s : TableSettings) (table : Table) : TableSettings :=
  { s with
    viewColumns := if s.viewColumns.isEmpty then table.columnNames else s.viewColumns
    searchColumns := if s.searchColumns.isEmpty then table.textColumnNames else s.searchColumns }

end TableSettings

/-- Members laid over those of an object. -/
def Json.overlay (base : Json) (members : List (String × Json)) : Json :=
  match base with
  | .object under => .object (members.foldl (fun under member => Dict.put member.1 member.2 under) under)
  | other => other

/-- The settings of the document with members laid over it. -/
def TableSettings.merge (s : TableSettings) (members : List (String × Json)) :
    Except DecodeError TableSettings :=
  TableSettings.ofJson (s.toJson.overlay members)

end TableGateway
