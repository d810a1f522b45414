import TableGateway.Proofs.RowRestrictions
import TableGateway.Proofs.ScanPositions
import TableGateway.Database.Preparation
import TableGateway.Settings.Store

/-!
# Quoted names

A quoted name is read back whole, whatever it holds, wherever no further mark follows it
(`readIdentifier?_eq_some_iff`), and the scanner takes it for one identifier there. So tables with one quoted name
are one. In the statements of the gateway every quoted name stands before one of a few characters, none of which is
a mark (`Built.spells`).
-/
namespace TableGateway.Sql

/-! ## Reading a quoted name -/

/-- Reads a name up to the mark that closes it, and gives the text behind that. A doubled mark is one of the name. -/
def readName : List Char → Option (List Char × List Char)
  | [] => none
  | [c] => if c = identifierMark then some ([], []) else none
  | c :: d :: rest =>
    if c = identifierMark then
      if d = identifierMark then (readName rest).map fun read => (c :: read.1, read.2) else some ([], d :: rest)
    else (readName (d :: rest)).map fun read => (c :: read.1, read.2)

/-- Reads the quoted identifier that a text starts with. -/
def readIdentifier? : List Char → Option (String × List Char)
  | [] => none
  | c :: rest =>
    if c = identifierMark then (readName rest).map fun read => (String.ofList read.1, read.2) else none

@[simp] theorem quotedChar_mark : quotedChar identifierMark = [identifierMark, identifierMark] := rfl

theorem quotedChar_of_ne {c : Char} (other : c ≠ identifierMark) : quotedChar c = [c] := if_neg other

theorem readName_cons {c : Char} (other : c ≠ identifierMark) (text : List Char) :
    readName (c :: text) = (readName text).map fun read => (c :: read.1, read.2) := by
  cases text <;> simp [readName, other]

theorem readName_complete (name : List Char) {rest : List Char} (single : rest.head? ≠ some identifierMark) :
    readName (name.flatMap quotedChar ++ identifierMark :: rest) = some (name, rest) := by
  induction name with
  | nil => cases rest <;> simp_all [readName]
  | cons c name ih =>
    by_cases mark : c = identifierMark
    · subst mark
      simp [readName, ih]
    · rw [List.flatMap_cons, quotedChar_of_ne mark, List.singleton_append, List.cons_append, readName_cons mark, ih]
      rfl

theorem readName_sound {text name rest : List Char} (read : readName text = some (name, rest)) :
    text = name.flatMap quotedChar ++ identifierMark :: rest ∧ rest.head? ≠ some identifierMark := by
  induction text using readName.induct generalizing name with
  | case1 => simp [readName] at read
  | case2 =>
    obtain ⟨rfl, rfl⟩ : [] = name ∧ [] = rest := by simpa [readName] using read
    simp
  | case3 c other => simp [readName, other] at read
  | case4 later ih =>
    simp only [readName, if_true, Option.map_eq_some_iff, Prod.mk.injEq] at read
    obtain ⟨⟨inner, behind⟩, found, rfl, rfl⟩ := read
    obtain ⟨rfl, single⟩ := ih found
    simpa using single
  | case5 d later other =>
    obtain ⟨rfl, rfl⟩ : [] = name ∧ d :: later = rest := by simpa [readName, other] using read
    simpa using other
  | case6 c d later other ih =>
    rw [readName_cons other, Option.map_eq_some_iff] at read
    obtain ⟨⟨inner, behind⟩, found, same⟩ := read
    obtain ⟨rfl, rfl⟩ := Prod.mk.inj same
    obtain ⟨parts, single⟩ := ih found
    rw [List.flatMap_cons, quotedChar_of_ne other, parts]
    exact ⟨rfl, single⟩

/-- Reading a quoted identifier undoes quoting, and only that. -/
theorem readIdentifier?_eq_some_iff {text rest : List Char} {name : String} :
    readIdentifier? text = some (name, rest) ↔
      text = (quoted name).toList ++ rest ∧ rest.head? ≠ some identifierMark := by
  constructor
  · intro read
    cases text with
    | nil => simp [readIdentifier?] at read
    | cons c text =>
      simp only [readIdentifier?, Option.ite_none_right_eq_some, Option.map_eq_some_iff] at read
      obtain ⟨rfl, ⟨inner, behind⟩, found, same⟩ := read
      obtain ⟨rfl, rfl⟩ := Prod.mk.inj same
      obtain ⟨rfl, single⟩ := readName_sound found
      simpa [quoted_parts] using single
  · rintro ⟨parts, single⟩
    rw [parts]
    simp [quoted_parts, readIdentifier?, readName_complete _ single]

theorem quotedName_inj {t t' : Table} : t.quotedName = t'.quotedName ↔ t.schema = t'.schema ∧ t.name = t'.name := by
  have schema_read (t : Table) :
      readIdentifier? t.quotedName.toList = some (t.schema, '.' :: (quoted t.name).toList) :=
    readIdentifier?_eq_some_iff.mpr ⟨by simp [Table.quotedName], by simp [identifierMark]⟩
  have name_read (t : Table) : readIdentifier? (quoted t.name).toList = some (t.name, []) :=
    readIdentifier?_eq_some_iff.mpr ⟨by simp, by simp⟩
  constructor
  · intro same
    have schemas := schema_read t
    rw [same, schema_read t'] at schemas
    obtain ⟨schema, rest⟩ := Prod.mk.inj (Option.some.inj schemas)
    have names := name_read t
    rw [← (List.cons.inj rest).2, name_read t'] at names
    exact ⟨schema.symm, (Prod.mk.inj (Option.some.inj names)).1.symm⟩
  · rintro ⟨schema, name⟩
    rw [Table.quotedName, Table.quotedName, schema, name]

/-! ## Scanning a quoted name -/

/-- The name of a quoted identifier does not close it. -/
theorem splitQuoted_name (name text : List Char) :
    splitQuoted identifierMark false (name.flatMap quotedChar ++ text) =
      (name.flatMap quotedChar ++ (splitQuoted identifierMark false text).1,
        (splitQuoted identifierMark false text).2) := by
  induction name with
  | nil => rfl
  | cons c name ih =>
    by_cases mark : c = identifierMark
    · subst mark
      simp [splitQuoted, ih]
    · rw [List.flatMap_cons, quotedChar_of_ne mark, List.append_assoc, List.singleton_append, List.append_assoc,
        List.singleton_append]
      generalize behind : name.flatMap quotedChar ++ text = later at ih ⊢
      cases later with
      | nil =>
        obtain ⟨empty, rfl⟩ := List.append_eq_nil_iff.mp behind
        simp [splitQuoted, empty]
      | cons d later => simp [splitQuoted, mark, ih]

theorem splitQuoted_mark_iff {rest : List Char} :
    (splitQuoted identifierMark false (identifierMark :: rest)).1 = [identifierMark] ↔
      rest.head? ≠ some identifierMark := by
  cases rest with
  | nil => simp [splitQuoted]
  | cons d rest =>
    by_cases mark : d = identifierMark <;> simp [splitQuoted, mark]

namespace Scan

/-- The scanner takes exactly the quoted name where no further mark follows it, and more where one does. -/
theorem quotedRun_quoted_iff {before rest : List Char} {name : String} :
    quotedRun (before ++ (quoted name).toList ++ rest) before.length identifierMark false =
        .ok ((quoted name).toList, (before ++ (quoted name).toList).length) ↔
      rest.head? ≠ some identifierMark := by
  have remains : Remains (before ++ (quoted name).toList ++ rest) before.length
      (identifierMark :: (name.toList.flatMap quotedChar ++ identifierMark :: rest)) := by
    constructor
    · simp
    · simp [quoted_parts]
  rw [quotedRun_eq identifierMark false remains, splitQuoted_name, ← splitQuoted_mark_iff]
  simp only [quoted_parts, Except.ok.injEq, Prod.mk.injEq, List.cons.injEq, true_and, List.append_cancel_left_eq]
  constructor
  · exact And.left
  · intro run
    simp [run]

end Scan

/-- A quoted name is one segment, and what stands behind it is cut as if it stood alone there. -/
theorem segments_quoted (before : List Char) {rest : List Char} (name : String)
    (single : rest.head? ≠ some identifierMark) :
    segments before.reverse ((quoted name).toList ++ rest) =
      .identifier (quoted name).toList :: segments (before ++ (quoted name).toList).reverse rest := by
  obtain ⟨later, cut⟩ := segmentation_exists (before ++ (quoted name).toList) rest
  have whole : Segmentation before ((quoted name).toList ++ rest) (.identifier (quoted name).toList :: later) :=
    segmentation_cons_iff.mpr ⟨rest, rfl, quoted_stands name before single, cut⟩
  rw [← segmentation_iff.mp whole, segmentation_iff.mp cut]

/-! ## What stands behind a quoted name -/

/-- The characters that a statement goes on with behind a quoted name. -/
def nameEnds : List Char := [' ', '.', ',', ')', ':']

/-- A text that starts with one of these characters. -/
def Follows (rest : String) : Prop := ∃ c ∈ nameEnds, rest.toList.head? = some c

/-- Names that stand in a text one behind the other, each of them quoted, and before one of these characters or at
    the end of the text. -/
inductive Names : List String → String → Prop where
  | none (text : String) : Names [] text
  | name {name rest : String} {names : List String} (before : String) (ends : rest = "" ∨ Follows rest)
      (later : Names names rest) : Names (name :: names) (before ++ (quoted name ++ rest))

/-- A text with names before others that follow it. -/
def Spells (names : List String) (text : String) : Prop :=
  ∀ later rest, rest = "" ∨ Follows rest → Names later rest → Names (names ++ later) (text ++ rest)

theorem follows_ne_mark {rest : String} (ends : rest = "" ∨ Follows rest) :
    rest.toList.head? ≠ some identifierMark := by
  rcases ends with rfl | ⟨c, listed, first⟩
  · simp
  · rw [first]
    rintro ⟨rfl⟩
    exact absurd listed (by decide)

theorem Follows.starts {c : Char} {rest : List Char} (listed : c ∈ nameEnds) : Follows (String.ofList (c :: rest)) :=
  ⟨c, listed, by simp⟩

theorem Follows.append {text : String} (follows : Follows text) (rest : String) : Follows (text ++ rest) := by
  obtain ⟨c, listed, first⟩ := follows
  exact ⟨c, listed, by simp [first]⟩

theorem Names.behind {names : List String} {text : String} (spelled : Names names text) (before : String) :
    Names names (before ++ text) := by
  cases spelled with
  | none => exact .none _
  | name inner ends later =>
    rw [← String.append_assoc]
    exact .name _ ends later

namespace Spells
variable {names others : List String} {text other : String}

theorem alone (spells : Spells names text) : Names names text := by
  simpa using spells [] "" (.inl rfl) (.none "")

theorem nothing (text : String) : Spells [] text := fun _ _ _ later => later.behind text

theorem quoted (name : String) : Spells [name] (quoted name) :=
  fun _ rest ends later => by simpa using Names.name "" ends later

theorem behind (spells : Spells names text) (before : String) : Spells names (before ++ text) := by
  intro later rest ends spelled
  rw [String.append_assoc]
  exact (spells later rest ends spelled).behind before

theorem append (first : Spells names text) (second : Spells others other) (follows : Follows other) :
    Spells (names ++ others) (text ++ other) := by
  intro later rest ends spelled
  rw [String.append_assoc, List.append_assoc]
  exact first _ _ (.inr (follows.append rest)) (second later rest ends spelled)

/-- Names on both sides of a text without any. -/
theorem around (first : Spells names text) (between : String) (follows : Follows between)
    (second : Spells others other) : Spells (names ++ others) (text ++ (between ++ other)) :=
  first.append (second.behind between) (follows.append other)

theorem before (spells : Spells names text) (other : String) (follows : Follows other) :
    Spells names (text ++ other) := by
  simpa using spells.append (nothing other) follows

theorem intercalate {α : Type} {separator : String} (follows : Follows separator) {items : List α}
    {spelled : α → List String} {text : α → String} (each : ∀ item ∈ items, Spells (spelled item) (text item)) :
    Spells (items.flatMap spelled) (separator.intercalate (items.map text)) := by
  induction items with
  | nil => exact nothing ""
  | cons item items ih =>
    have first := each item (by simp)
    have later := ih fun item member => each item (by simp [member])
    cases items with
    | nil => simpa using first
    | cons next items =>
      rw [List.map_cons, List.map_cons, String.intercalate_cons_cons, String.append_assoc]
      exact first.append (later.behind separator) (follows.append _)

/-- Items with one name each. -/
theorem list {α : Type} {separator : String} (follows : Follows separator) {items : List α} {name text : α → String}
    (each : ∀ item ∈ items, Spells [name item] (text item)) :
    Spells (items.map name) (separator.intercalate (items.map text)) := by
  rw [List.map_eq_flatMap]
  exact intercalate follows each

/-- The names of clauses, of which those left out have none. -/
theorem joinClauses (clauses : List (List String × String)) (each : ∀ clause ∈ clauses, Spells clause.1 clause.2)
    (left_out : ∀ clause ∈ clauses, clause.2 = "" → clause.1 = []) :
    Spells (clauses.flatMap Prod.fst) (joinClauses (clauses.map Prod.snd)) := by
  have written : clauses.flatMap Prod.fst = (clauses.filter (·.2 ≠ "")).flatMap Prod.fst := by
    clear each
    induction clauses with
    | nil => rfl
    | cons clause clauses ih =>
      have later := ih fun clause member => left_out clause (by simp [member])
      by_cases empty : clause.2 = ""
      · simp [empty, left_out clause (by simp) empty, later]
      · simp [empty, later]
  rw [written, Sql.joinClauses, List.filter_map]
  exact intercalate (.starts (by decide)) fun clause member => each clause (List.mem_filter.mp member).1

end Spells

/-! ## Parts of statements -/

theorem spells_table (t : Table) : Spells [t.schema, t.name] t.quotedName := by
  rw [Table.quotedName, String.append_assoc]
  exact (Spells.quoted t.schema).append ((Spells.quoted t.name).behind ".") (.append (.starts (by decide)) _)

theorem spells_settingsTable (schema : String) : Spells [schema, "settings"] (settingsTable schema) :=
  spells_table ⟨"settings", schema, []⟩

theorem spells_dotted (t : Table) (c : Column) : Spells [t.schema, t.name, c.name] (Link.dotted t c) := by
  rw [Link.dotted, String.append_assoc]
  exact (spells_table t).append ((Spells.quoted c.name).behind ".") (.append (.starts (by decide)) _)

theorem spells_columns (columns : List Column) :
    Spells (columns.map (·.name)) (", ".intercalate (columns.map Column.quotedName)) :=
  .list (.starts (by decide)) fun c _ => .quoted c.name

/-- The columns that a condition of the gateway tests. -/
def Condition.columns : Condition → List Column
  | .matching columns _ => columns
  | _ => []

theorem spells_condition (condition : Condition) :
    Spells (condition.columns.map (·.name)) condition.text := by
  cases condition with
  | matching columns pattern =>
    have tests : Spells (columns.map (·.name)) (" OR ".intercalate (columns.map Condition.test)) :=
      .list (.starts (by decide)) fun c _ => (Spells.quoted c.name).before _ (.starts (by decide))
    exact tests.behind "WHERE "
  | _ => exact .nothing _

theorem spells_order (terms : List (Column × Direction)) :
    Spells (terms.map (·.1.name)) (Order.clause terms) := by
  cases terms with
  | nil => exact .nothing ""
  | cons term terms =>
    refine (Spells.list (.starts (by decide)) fun term _ => ?_).behind "ORDER BY "
    rw [String.append_assoc]
    exact (Spells.quoted term.1.name).before _ (.append (.starts (by decide)) _)

/-! ## Statements -/

/-- The texts of statements that the gateway makes, with the names that each one quotes, in their order. -/
inductive Built : List String → String → Prop where
  | select (table : Table) (listing : Listing) :
      Built ((listing.selection.columns table).map (·.name) ++ [table.schema, table.name] ++
        (listing.filter.condition table).columns.map (·.name) ++
        (listing.order.effectiveTerms table).map (·.1.name)) (select table listing).text
  | insert {table : Table} {payload : Payload} {statement : Statement}
      (made : insert table payload = .ok statement) :
      Built ([table.schema, table.name] ++ (payload.assignments table 0).map (·.column.name)) statement.text
  | update {table : Table} {filter : Filter} {payload : Payload} {statement : Statement}
      (made : update table filter payload = .ok statement) :
      Built ([table.schema, table.name] ++
        (payload.assignments table (filter.condition table).parameters.length).map (·.column.name) ++
        (filter.condition table).columns.map (·.name)) statement.text
  | delete {table : Table} {filter : Filter} {statement : Statement} (made : delete table filter = .ok statement) :
      Built ([table.schema, table.name] ++ (filter.condition table).columns.map (·.name)) statement.text
  | rows {names : List String} {text : String} (built : Built names text) : Built names (jsonText text)
  | relatedRows (link : Link) (id : Parameter) :
      Built ((link.related.columns.flatMap fun c => [link.related.schema, link.related.name, c.name]) ++
        [link.related.schema, link.related.name] ++ [link.join.schema, link.join.name] ++
        [link.join.schema, link.join.name, link.relatedColumn.name] ++
        [link.related.schema, link.related.name, link.keyColumn.name] ++
        [link.join.schema, link.join.name, link.mainColumn.name]) (link.relatedRows id).text
  | removeLink (link : Link) :
      Built [link.join.schema, link.join.name, link.mainColumn.name, link.relatedColumn.name] link.removeText
  | addLink (link : Link) :
      Built [link.join.schema, link.join.name, link.mainColumn.name, link.relatedColumn.name, link.mainColumn.name,
        link.relatedColumn.name] link.addText
  | readSettings (schema : String) : Built [schema, "settings"] (readSettingsText schema)
  | mergeSettings (schema : String) : Built [schema, "settings", schema, "settings"] (mergeSettingsText schema)
  | createSchema (schema : String) : Built [schema] (createSchemaText schema)
  | createSettings (schema : String) : Built [schema, "settings"] (createSettingsText schema)
  | createDatabase (name : String) : Built [name] (createDatabaseText name)

theorem Condition.columns_of_text_empty {condition : Condition} (empty : condition.text = "") :
    condition.columns = [] := by
  cases condition with
  | matching columns pattern => exact absurd empty (ne_empty_of_append (by decide))
  | _ => rfl

theorem terms_of_clause_empty {terms : List (Column × Direction)} (empty : Order.clause terms = "") : terms = [] := by
  cases terms with
  | nil => rfl
  | cons term terms => exact absurd empty (ne_empty_of_append (by decide))

theorem spells_select (table : Table) (listing : Listing) :
    Spells ((listing.selection.columns table).map (·.name) ++ [table.schema, table.name] ++
      (listing.filter.condition table).columns.map (·.name) ++
      (listing.order.effectiveTerms table).map (·.1.name)) (select table listing).text := by
  have head : Spells ((listing.selection.columns table).map (·.name) ++ [table.schema, table.name])
      (selectHead table listing.selection) := by
    simp only [selectHead, String.append_assoc]
    exact ((spells_columns _).append ((spells_table table).behind " FROM ") (.append (.starts (by decide)) _)).behind _
  have clauses := Spells.joinClauses
    [(_, selectHead table listing.selection), (_, (listing.filter.condition table).text),
      (_, Order.clause (listing.order.effectiveTerms table)), ([], listing.page.text)]
    (by simpa using ⟨head, spells_condition _, spells_order _, .nothing _⟩)
    (by simpa using ⟨fun empty => absurd empty (selectHead_ne_empty table _), Condition.columns_of_text_empty,
      terms_of_clause_empty⟩)
  simpa [select] using clauses

theorem spells_insert {table : Table} {payload : Payload} {statement : Statement}
    (made : insert table payload = .ok statement) :
    Spells ([table.schema, table.name] ++ (payload.assignments table 0).map (·.column.name)) statement.text := by
  have text : statement.text = insertText table (payload.assignments table 0) := by
    rw [insert] at made
    split at made
    · cases made
    · exact (congrArg Statement.text (Except.ok.inj made)).symm
  have columns : Spells ((payload.assignments table 0).map (·.column.name))
      (", ".intercalate ((payload.assignments table 0).map (·.column.quotedName))) :=
    .list (.starts (by decide)) fun a _ => .quoted a.column.name
  have values : Follows (") VALUES (" ++ ", ".intercalate ((payload.assignments table 0).map Assignment.placeholder) ++
      ") RETURNING *") := .append (.append (.starts (by decide)) _) _
  have whole := ((spells_table table).around " (" (.starts (by decide)) (columns.before _ values)).behind "INSERT INTO "
  simp only [← String.append_assoc] at whole
  rw [text]
  exact whole

theorem spells_update {table : Table} {filter : Filter} {payload : Payload} {statement : Statement}
    (made : update table filter payload = .ok statement) :
    Spells ([table.schema, table.name] ++
      (payload.assignments table (filter.condition table).parameters.length).map (·.column.name) ++
      (filter.condition table).columns.map (·.name)) statement.text := by
  let assignments := payload.assignments table (filter.condition table).parameters.length
  have text : statement.text =
      Sql.joinClauses [updateHead table assignments, (filter.condition table).text, "RETURNING *"] := by
    simp only [update] at made
    split at made
    · cases made
    · exact (congrArg Statement.text (Except.ok.inj made)).symm
  have set (a : Assignment) : Spells [a.column.name] (setText a) := by
    rw [setText, String.append_assoc]
    exact (Spells.quoted a.column.name).before _ (.append (.starts (by decide)) _)
  have head :
      Spells ([table.schema, table.name] ++ assignments.map (·.column.name)) (updateHead table assignments) := by
    simp only [updateHead, String.append_assoc]
    exact ((spells_table table).append ((Spells.list (.starts (by decide)) fun a _ => set a).behind _)
      (.append (.starts (by decide)) _)).behind _
  have clauses := Spells.joinClauses
    [(_, updateHead table assignments), (_, (filter.condition table).text), ([], "RETURNING *")]
    (by simpa using ⟨head, spells_condition _, .nothing _⟩)
    (by simpa using ⟨fun empty => absurd empty (updateHead_ne_empty table _), Condition.columns_of_text_empty⟩)
  rw [text]
  simpa using clauses

theorem spells_delete {table : Table} {filter : Filter} {statement : Statement}
    (made : delete table filter = .ok statement) :
    Spells ([table.schema, table.name] ++ (filter.condition table).columns.map (·.name)) statement.text := by
  have text : statement.text =
      "DELETE FROM " ++ table.quotedName ++ " " ++ (filter.condition table).text ++ " RETURNING *" := by
    simp only [delete] at made
    split at made
    · cases made
    · exact (congrArg Statement.text (Except.ok.inj made)).symm
  simp only [text, String.append_assoc]
  exact ((spells_table table).append
    (((spells_condition (filter.condition table)).before _ (.starts (by decide))).behind " ")
    (.append (.starts (by decide)) _)).behind _

theorem spells_relatedRows (link : Link) (id : Parameter) :
    Spells ((link.related.columns.flatMap fun c => [link.related.schema, link.related.name, c.name]) ++
      [link.related.schema, link.related.name] ++ [link.join.schema, link.join.name] ++
      [link.join.schema, link.join.name, link.relatedColumn.name] ++
      [link.related.schema, link.related.name, link.keyColumn.name] ++
      [link.join.schema, link.join.name, link.mainColumn.name]) (link.relatedRows id).text := by
  have columns : Spells (link.related.columns.flatMap fun c => [link.related.schema, link.related.name, c.name])
      (", ".intercalate (link.related.columns.map (Link.dotted link.related))) :=
    .intercalate (.starts (by decide)) fun c _ => spells_dotted link.related c
  have main : Spells [link.join.schema, link.join.name, link.mainColumn.name]
      (Link.dotted link.join link.mainColumn ++ (" = " ++ link.mainColumn.placeholder 1)) :=
    (spells_dotted _ _).before _ (.append (.starts (by decide)) _)
  have keys := (spells_dotted link.join link.relatedColumn).around " = " (.starts (by decide))
    ((spells_dotted link.related link.keyColumn).around " WHERE " (.starts (by decide)) main)
  have tables := (spells_table link.related).around " JOIN " (.starts (by decide))
    ((spells_table link.join).around " ON " (.starts (by decide)) keys)
  have whole := (columns.around " FROM " (.starts (by decide)) tables).behind "SELECT "
  simp only [← String.append_assoc, ← List.append_assoc] at whole
  exact whole

theorem spells_removeLink (link : Link) :
    Spells [link.join.schema, link.join.name, link.mainColumn.name, link.relatedColumn.name] link.removeText := by
  have related : Spells [link.relatedColumn.name]
      (link.relatedColumn.quotedName ++ " = " ++ link.relatedColumn.placeholder 2) := by
    rw [String.append_assoc]
    exact (Spells.quoted _).before _ (.append (.starts (by decide)) _)
  have keys : Spells [link.mainColumn.name, link.relatedColumn.name]
      (link.mainColumn.quotedName ++ (" = " ++ link.mainColumn.placeholder 1 ++ " AND " ++
        (link.relatedColumn.quotedName ++ " = " ++ link.relatedColumn.placeholder 2))) :=
    (Spells.quoted link.mainColumn.name).around _ (.append (.append (.starts (by decide)) _) _) related
  have whole := ((spells_table link.join).around " WHERE " (.starts (by decide)) keys).behind "DELETE FROM "
  simp only [← String.append_assoc] at whole
  exact whole

theorem spells_addLink (link : Link) :
    Spells [link.join.schema, link.join.name, link.mainColumn.name, link.relatedColumn.name, link.mainColumn.name,
      link.relatedColumn.name] link.addText := by
  have columns : Spells [link.mainColumn.name, link.relatedColumn.name]
      (link.mainColumn.quotedName ++ ", " ++ link.relatedColumn.quotedName) := by
    rw [String.append_assoc]
    exact (Spells.quoted link.mainColumn.name).around ", " (.starts (by decide)) (.quoted _)
  have statement {names : List String} {columns : String} (spells : Spells names columns) :
      Spells ([link.join.schema, link.join.name] ++ names ++ names)
        ("INSERT INTO " ++ link.join.quotedName ++ " (" ++ columns ++ ") VALUES (" ++ link.mainColumn.placeholder 1 ++
          ", " ++ link.relatedColumn.placeholder 2 ++ ") ON CONFLICT (" ++ columns ++ ") DO NOTHING") := by
    have values : Follows (") VALUES (" ++ link.mainColumn.placeholder 1 ++ ", " ++
        link.relatedColumn.placeholder 2 ++ ") ON CONFLICT (") :=
      .append (.append (.append (.append (.starts (by decide)) _) _) _) _
    have again := spells.around _ values (spells.before ") DO NOTHING" (.starts (by decide)))
    have whole := ((spells_table link.join).around " (" (.starts (by decide)) again).behind "INSERT INTO "
    simp only [← String.append_assoc, ← List.append_assoc] at whole
    exact whole
  exact statement columns

theorem spells_readSettings (schema : String) : Spells [schema, "settings"] (readSettingsText schema) := by
  have whole := ((spells_settingsTable schema).before " WHERE kind = $1" (.starts (by decide))).behind
    "SELECT key, config FROM "
  rw [← String.append_assoc] at whole
  exact whole

theorem spells_mergeSettings (schema : String) :
    Spells [schema, "settings", schema, "settings"] (mergeSettingsText schema) := by
  have table := spells_settingsTable schema
  have last := (table.before ".config || EXCLUDED.config, updated_at = NOW() RETURNING config"
    (.starts (by decide))).behind "ON CONFLICT (kind, key) DO UPDATE SET config = "
  have whole := (table.around " (kind, key, config) VALUES ($1, $2, $3) " (.starts (by decide)) last).behind
    "INSERT INTO "
  simp only [← String.append_assoc] at whole
  exact whole

theorem spells_createSettings (schema : String) : Spells [schema, "settings"] (createSettingsText schema) := by
  delta createSettingsText
  rw [String.intercalate_cons_cons, String.intercalate_cons_cons]
  rw [String.append_assoc, String.append_assoc, String.append_assoc, String.append_assoc]
  exact ((((spells_settingsTable schema).before _ (.append (.starts (by decide)) _)).behind _).behind _).behind _

/-- In every statement, the names that it quotes stand before characters that end them. -/
theorem Built.spells {names : List String} {text : String} (built : Built names text) : Spells names text := by
  induction built with
  | select table listing => exact spells_select table listing
  | insert made => exact spells_insert made
  | update made => exact spells_update made
  | delete made => exact spells_delete made
  | rows _ ih =>
    rw [jsonText_eq, String.append_assoc]
    exact (ih.before _ (.starts (by decide))).behind _
  | relatedRows link id => exact spells_relatedRows link id
  | removeLink link => exact spells_removeLink link
  | addLink link => exact spells_addLink link
  | readSettings schema => exact spells_readSettings schema
  | mergeSettings schema => exact spells_mergeSettings schema
  | createSchema schema => exact (Spells.quoted schema).behind _
  | createSettings schema => exact spells_createSettings schema
  | createDatabase name => exact (Spells.quoted name).behind _

/-- Reading a quoted identifier gives a name exactly where that stands quoted and no further mark follows. There the
    scanner takes the name and nothing more. So the quoted name of a table tells its schema and its name. Behind every
    name in a statement is the end of the text or a character that is no mark, and before these a name is one
    identifier of the text, whatever it holds. -/
theorem quoted_names_stay_whole :
    (∀ text name rest, readIdentifier? text = some (name, rest) ↔
      text = (quoted name).toList ++ rest ∧ rest.head? ≠ some identifierMark) ∧
    (∀ before name rest,
      Scan.quotedRun (before ++ (quoted name).toList ++ rest) before.length identifierMark false =
          .ok ((quoted name).toList, (before ++ (quoted name).toList).length) ↔
        rest.head? ≠ some identifierMark) ∧
    (∀ t t' : Table, t.quotedName = t'.quotedName ↔ t.schema = t'.schema ∧ t.name = t'.name) ∧
    (∀ names text, Built names text → Names names text) ∧
    ∀ before name rest, rest = "" ∨ Follows rest →
      segments before.reverse ((quoted name).toList ++ rest.toList) =
        .identifier (quoted name).toList :: segments (before ++ (quoted name).toList).reverse rest.toList :=
  ⟨fun _ _ _ => readIdentifier?_eq_some_iff, fun _ _ _ => Scan.quotedRun_quoted_iff, fun _ _ => quotedName_inj,
    fun _ _ built => built.spells.alone,
    fun before name _ ends => segments_quoted before name (follows_ne_mark ends)⟩

theorem quoted_names_stay_whole_marks :
    Built ["\"", "settings"] (readSettingsText "\"") ∧ Names ["\"", "settings"] (readSettingsText "\"") ∧
    Follows ".b" ∧
    segments [] ((quoted "\"a\" /* $1").toList ++ ".b".toList) =
      .identifier (quoted "\"a\" /* $1").toList :: segments (quoted "\"a\" /* $1").toList.reverse ".b".toList := by
  have follows : Follows ".b" := ⟨'.', by decide, by decide⟩
  obtain ⟨-, -, -, names, whole⟩ := quoted_names_stay_whole
  exact ⟨.readSettings _, names _ _ (.readSettings _), follows, whole [] _ ".b" (.inr follows)⟩

end TableGateway.Sql
