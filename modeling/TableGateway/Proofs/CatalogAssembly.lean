import Mathlib
import TableGateway.Catalog.Assembly
import TableGateway.Proofs.Dictionaries
import TableGateway.Proofs.Firsts

/-!
# Tables assembled from rows

The rows of the catalog come in any order, and the tables are put together one row after the other. Behind any part
of the rows a table has the columns of exactly its own rows so far (`Described`), and the tables are those of the
names (`OfNames`). So the whole is a grouping (`rows_grouped`): no row is lost, none counts twice, and the rows of a
table keep their order (`Grouped`). It fails at the first row that has no place, for the fault of that row
(`CatalogRow.Fault`).
-/
namespace TableGateway

/-! ## Rows and their faults -/

def CatalogRow.Describes (row : CatalogRow) (c : Column) : Prop :=
  ∃ key, row.foreignKey? = .ok key ∧ c = row.toColumn key

namespace CatalogRow
variable {names : List String} {row : CatalogRow} {key : Option ForeignKey} {cause : CatalogError} {c : Column}

/-- What the descriptor of a row's foreign key stands for: none if there is no descriptor or null, or else what it
    decodes to. -/
inductive KeyRead (row : CatalogRow) : Except CatalogError (Option ForeignKey) → Prop where
  | absent (unsaid : row.foreignKey = none) : KeyRead row (.ok none)
  | null (said : row.foreignKey = some .null) : KeyRead row (.ok none)
  | decoded {value : Json} {key : ForeignKey} (said : row.foreignKey = some value)
      (decodes : ForeignKey.ofJson value = .ok key) : KeyRead row (.ok (some key))
  | refused {value : Json} {cause : DecodeError} (said : row.foreignKey = some value) (some_key : value ≠ .null)
      (fails : ForeignKey.ofJson value = .error cause) :
      KeyRead row (.error (.foreignKey row.table row.column cause.message))

/-- A row has a place among tables of the names. -/
structure Placed (names : List String) (row : CatalogRow) : Prop where
  keyed : ∃ key, row.KeyRead (.ok key)
  listed : row.table ∈ names

/-- Why a row has no place among tables of the names. A descriptor that does not decode counts before a table that
    is not named. -/
inductive Fault (names : List String) (row : CatalogRow) : CatalogError → Prop where
  | descriptor {cause : CatalogError} (refused : row.KeyRead (.error cause)) : Fault names row cause
  | orphan (keyed : ∃ key, row.KeyRead (.ok key)) (unlisted : row.table ∉ names) :
      Fault names row (.orphan row.table row.column)

/-- A column that a row is carried over to field by field, with the foreign key that the row describes. -/
structure CarriedTo (row : CatalogRow) (c : Column) : Prop where
  name : c.name = row.column
  oid : c.oid = row.oid
  typeName : c.typeName = row.typeName
  udtName : c.udtName = row.udtName
  isText : c.isText = true ↔ row.oid = 25 ∨ row.oid = 1043
  isNullable : c.isNullable = row.isNullable
  default : c.default = row.default
  isPrimaryKey : c.isPrimaryKey = row.isPrimaryKey
  foreignKey : row.KeyRead (.ok c.foreignKey)

theorem keyRead (row : CatalogRow) : row.KeyRead row.foreignKey? := by
  unfold foreignKey?
  split
  case h_1 unsaid => exact .absent unsaid
  case h_2 said => exact .null said
  case h_3 value some_key said =>
    split
    case h_1 key decodes => exact .decoded said decodes
    case h_2 cause fails => exact .refused said some_key fails

theorem KeyRead.unique {read read' : Except CatalogError (Option ForeignKey)} (reads : row.KeyRead read)
    (reads' : row.KeyRead read') : read = read' := by
  have null_fails (key : ForeignKey) : ForeignKey.ofJson .null ≠ .ok key := nofun
  cases reads <;> cases reads' <;> simp_all

theorem foreignKey?_eq_iff {read : Except CatalogError (Option ForeignKey)} :
    row.foreignKey? = read ↔ row.KeyRead read :=
  ⟨fun same => same ▸ row.keyRead, row.keyRead.unique⟩

/-- The columns that a row describes are the one that it is carried over to. -/
theorem describes_iff : row.Describes c ↔ row.CarriedTo c := by
  simp only [Describes, foreignKey?_eq_iff]
  constructor
  · rintro ⟨key, reads, rfl⟩
    exact ⟨rfl, rfl, rfl, rfl, by simp [toColumn, isTextOid], rfl, rfl, rfl, reads⟩
  · rintro ⟨name, oid, typeName, udtName, isText, isNullable, default, isPrimaryKey, reads⟩
    refine ⟨c.foreignKey, reads, ?_⟩
    have text : c.isText = isTextOid row.oid := Bool.eq_iff_iff.mpr (by simpa [isTextOid] using isText)
    cases c
    simp_all [toColumn]

theorem CarriedTo.unique {c' : Column} (carried : row.CarriedTo c) (carried' : row.CarriedTo c') : c = c' := by
  obtain ⟨key, reads, rfl⟩ := describes_iff.mpr carried
  obtain ⟨key', reads', rfl⟩ := describes_iff.mpr carried'
  rw [reads] at reads'
  cases reads'
  rfl

theorem carriedTo_of_mem {rows : List CatalogRow} {columns : List Column}
    (carried : List.Forall₂ CarriedTo rows columns) (member : c ∈ columns) : ∃ row : CatalogRow, row.CarriedTo c := by
  induction carried with
  | nil => cases member
  | cons first _ ih =>
    obtain rfl | later := List.mem_cons.mp member
    · exact ⟨_, first⟩
    · exact ih later

theorem Fault.not_placed (fault : row.Fault names cause) : ¬row.Placed names := by
  rintro ⟨⟨key, reads⟩, listed⟩
  cases fault with
  | descriptor refused => cases refused.unique reads
  | orphan _ unlisted => exact unlisted listed

theorem Fault.unique {cause' : CatalogError} (fault : row.Fault names cause)
    (fault' : row.Fault names cause') : cause = cause' := by
  cases fault with
  | descriptor refused =>
    cases fault' with
    | descriptor refused' => exact Except.error.inj (refused.unique refused')
    | orphan keyed => cases refused.unique keyed.choose_spec
  | orphan keyed =>
    cases fault' with
    | descriptor refused' => cases refused'.unique keyed.choose_spec
    | orphan => rfl

end CatalogRow

/-! ## Tables from rows -/

/-- A table stands under its own name, in the schema, and has a column. -/
structure WellFormed (schema : String) (tables : Tables) : Prop where
  named : ∀ name t, tables.get? name = some t → t.name = name
  placed : ∀ name t, tables.get? name = some t → t.schema = schema
  inhabited : ∀ name t, tables.get? name = some t → t.columns ≠ []

/-- The columns of text are those of the types `text` and `character varying`. -/
def TextByType (tables : Tables) : Prop :=
  ∀ name t, tables.get? name = some t → ∀ c ∈ t.columns, c.isText = true ↔ c.oid = 25 ∨ c.oid = 1043

/-- A table of a name, with the columns of exactly its rows, in their order. -/
structure IsTableOf (schema : String) (rows : List CatalogRow) (name : String) (t : Table) : Prop where
  named : t.name = name
  placed : t.schema = schema
  columns : List.Forall₂ CatalogRow.Describes (rows.filter fun row => row.table = name) t.columns

def Described (schema : String) (rows : List CatalogRow) (tables : Tables) : Prop :=
  ∀ name t, tables.get? name = some t → IsTableOf schema rows name t

namespace Tables
variable {schema : String} {names : List String} {rows before : List CatalogRow} {row : CatalogRow}
  {tables tables' : Tables}

theorem described_bare (schema : String) (names : List String) : Described schema [] (bare schema names) := by
  intro name t found
  obtain ⟨_, -, same⟩ := List.mem_map.mp (Dict.mem_of_get?_ofList found)
  cases same
  exact ⟨rfl, rfl, .nil⟩

/-- A row that can be placed becomes the last column of its table, and the other tables stay as they are. -/
theorem addRow_eq_ok_iff : addRow tables row = .ok tables' ↔
    ∃ key t, row.foreignKey? = .ok key ∧ tables.get? row.table = some t ∧
      tables' = tables.insert row.table { t with columns := t.columns ++ [row.toColumn key] } := by
  rw [addRow]
  cases row.foreignKey? with
  | error cause => simp [bind, Except.bind]
  | ok key =>
    cases tables.get? row.table with
    | none => simp [bind, Except.bind, throw, throwThe, MonadExceptOf.throw]
    | some t => simp [bind, Except.bind, pure, Except.pure, eq_comm]

theorem described_addRow (described : Described schema before tables) (added : addRow tables row = .ok tables') :
    Described schema (before ++ [row]) tables' := by
  obtain ⟨key, t, keyed, present, rfl⟩ := addRow_eq_ok_iff.mp added
  intro name t' found
  rw [Dict.get?_insert] at found
  split at found
  · rename_i same
    subst same
    cases found
    have ⟨named, placed, columns⟩ := described row.table t present
    refine ⟨named, placed, ?_⟩
    rw [List.filter_append, List.filter_singleton, decide_eq_true rfl]
    exact List.rel_append columns (.cons ⟨key, keyed, rfl⟩ .nil)
  · rename_i other
    have ⟨named, placed, columns⟩ := described name t' found
    refine ⟨named, placed, ?_⟩
    rw [List.filter_append, List.filter_singleton, decide_eq_false (Ne.symm other)]
    simpa using columns

theorem described_foldlM (described : Described schema before tables)
    (added : rows.foldlM addRow tables = .ok tables') : Described schema (before ++ rows) tables' := by
  induction rows generalizing before tables with
  | nil =>
    cases added
    simpa using described
  | cons row rest ih =>
    rw [List.foldlM_cons] at added
    cases placed : addRow tables row with
    | error cause =>
      rw [placed] at added
      cases added
    | ok between =>
      rw [placed] at added
      simpa using ih (described_addRow described placed) added

end Tables

/-! ## Grouping -/

/-- There is a table for each name that a row has, and it carries exactly the rows of its name, in their order. -/
structure Grouped (schema : String) (rows : List CatalogRow) (tables : Tables) : Prop where
  present : ∀ name, (∃ t, tables.get? name = some t) ↔ ∃ row ∈ rows, row.table = name
  named : ∀ name t, tables.get? name = some t → t.name = name
  placed : ∀ name t, tables.get? name = some t → t.schema = schema
  columns : ∀ name t, tables.get? name = some t →
    List.Forall₂ CatalogRow.CarriedTo (rows.filter fun row => row.table = name) t.columns

/-- The rows of each table are the same, in the same order. -/
def SameByTable (rows rows' : List CatalogRow) : Prop :=
  ∀ name, rows.filter (fun row => row.table = name) = rows'.filter fun row => row.table = name

/-- The fault of the first row that has no place among tables of the names. -/
def FirstFault (names : List String) (rows : List CatalogRow) (cause : CatalogError) : Prop :=
  ∃ row, IsFirst (fun row => ¬row.Placed names) rows row ∧ row.Fault names cause

namespace Tables
variable {schema : String} {names : List String} {rows rows' : List CatalogRow} {row : CatalogRow}
  {tables tables' : Tables} {cause : CatalogError}

/-- The number of columns of all tables. -/
def columnCount (tables : Tables) : Nat :=
  (tables.values.map fun t => t.columns.length).sum

/-- The tables are those of the names. -/
def OfNames (names : List String) (tables : Tables) : Prop :=
  ∀ name, (∃ t, tables.get? name = some t) ↔ name ∈ names

theorem ofNames_bare (schema : String) (names : List String) : OfNames names (bare schema names) := by
  intro name
  rw [bare, Dict.exists_get?_ofList_iff]
  simp

theorem OfNames.addRow (ofNames : OfNames names tables) (added : tables.addRow row = .ok tables') :
    OfNames names tables' := by
  obtain ⟨key, t, -, present, rfl⟩ := addRow_eq_ok_iff.mp added
  intro name
  rw [Dict.get?_insert, ← ofNames name]
  split
  · rename_i same
    simp [same, present]
  · rfl

theorem exists_addRow_iff (ofNames : OfNames names tables) :
    (∃ tables', tables.addRow row = .ok tables') ↔ row.Placed names := by
  constructor
  · rintro ⟨tables', added⟩
    obtain ⟨key, t, read, present, -⟩ := addRow_eq_ok_iff.mp added
    exact ⟨⟨key, CatalogRow.foreignKey?_eq_iff.mp read⟩, (ofNames row.table).mp ⟨t, present⟩⟩
  · rintro ⟨⟨key, reads⟩, listed⟩
    obtain ⟨t, present⟩ := (ofNames row.table).mpr listed
    exact ⟨_, addRow_eq_ok_iff.mpr ⟨key, t, CatalogRow.foreignKey?_eq_iff.mpr reads, present, rfl⟩⟩

theorem fault_of_addRow (ofNames : OfNames names tables) (fails : tables.addRow row = .error cause) :
    row.Fault names cause := by
  rw [Tables.addRow] at fails
  cases read : row.foreignKey? with
  | error reason =>
    rw [read] at fails
    cases fails
    exact .descriptor (CatalogRow.foreignKey?_eq_iff.mp read)
  | ok key =>
    rw [read] at fails
    cases found : tables.get? row.table with
    | none =>
      have unlisted : row.table ∉ names := fun listed => by
        obtain ⟨t, present⟩ := (ofNames row.table).mpr listed
        cases found.symm.trans present
      simp only [found, bind, Except.bind] at fails
      cases fails
      exact .orphan ⟨key, CatalogRow.foreignKey?_eq_iff.mp read⟩ unlisted
    | some t =>
      simp only [found, bind, Except.bind] at fails
      cases fails

/-- The tables are put together one row after the other, and the first row without a place stops that. -/
theorem foldlM_addRow (ofNames : OfNames names tables) :
    (∀ row ∈ rows, row.Placed names) ∧
        (∃ tables', OfNames names tables' ∧ rows.foldlM Tables.addRow tables = .ok tables') ∨
      ∃ cause, FirstFault names rows cause ∧ rows.foldlM Tables.addRow tables = .error cause := by
  induction rows generalizing tables with
  | nil => exact .inl ⟨nofun, tables, ofNames, rfl⟩
  | cons row rest ih =>
    rw [List.foldlM_cons]
    cases added : tables.addRow row with
    | error cause =>
      have fault := fault_of_addRow ofNames added
      exact .inr ⟨cause, ⟨row, ⟨fault.not_placed, [], rest, rfl, nofun⟩, fault⟩, rfl⟩
    | ok between =>
      have placed := (exists_addRow_iff ofNames).mp ⟨between, added⟩
      obtain ⟨all_placed, whole⟩ | ⟨cause, ⟨faulty, first, fault⟩, fails⟩ := ih (ofNames.addRow added)
      · exact .inl ⟨List.forall_mem_cons.mpr ⟨placed, all_placed⟩, whole⟩
      · obtain ⟨not_placed, before, after, rfl, earlier⟩ := first
        refine .inr ⟨cause, ⟨faulty, ⟨not_placed, row :: before, after, rfl, ?_⟩, fault⟩, fails⟩
        exact List.forall_mem_cons.mpr ⟨not_not_intro placed, earlier⟩

theorem grouped_filter {whole : Tables} (ofNames : OfNames names whole) (described : Described schema rows whole)
    (all_placed : ∀ row ∈ rows, row.Placed names) :
    Grouped schema rows (whole.filter fun t => !t.columns.isEmpty) := by
  have kept (name : String) (t : Table) : (whole.filter fun t => !t.columns.isEmpty).get? name = some t ↔
      whole.get? name = some t ∧ t.columns ≠ [] := by
    simp [Dict.get?_filter_eq_some_iff]
  -- A table has as many columns as there are rows of its name.
  have inhabited_iff (name : String) (t : Table) (found : whole.get? name = some t) :
      t.columns ≠ [] ↔ ∃ row ∈ rows, row.table = name := by
    have lengths := (described name t found).columns.length_eq
    rw [← List.length_pos_iff, ← lengths, List.length_pos_iff_exists_mem]
    simp
  refine ⟨fun name => ?_, ?_, ?_, ?_⟩
  · simp only [kept]
    constructor
    · rintro ⟨t, found, inhabited⟩
      exact (inhabited_iff name t found).mp inhabited
    · rintro ⟨row, member, rfl⟩
      obtain ⟨t, found⟩ := (ofNames row.table).mpr (all_placed row member).listed
      exact ⟨t, found, (inhabited_iff row.table t found).mpr ⟨row, member, rfl⟩⟩
  · intro name t found
    exact (described name t ((kept name t).mp found).1).named
  · intro name t found
    exact (described name t ((kept name t).mp found).1).placed
  · intro name t found
    exact (described name t ((kept name t).mp found).1).columns.imp fun _ _ => CatalogRow.describes_iff.mp

end Tables

namespace Grouped
variable {schema : String} {rows rows' : List CatalogRow} {tables tables' : Tables}

theorem congr (grouped : Grouped schema rows tables) (same : SameByTable rows rows') : Grouped schema rows' tables := by
  refine ⟨fun name => ?_, grouped.named, grouped.placed, fun name t found => ?_⟩
  · have mem_iff (rows : List CatalogRow) : (∃ row ∈ rows, row.table = name) ↔
        rows.filter (fun row => row.table = name) ≠ [] := by
      simp [List.filter_eq_nil_iff]
    rw [grouped.present, mem_iff, mem_iff, same]
  · rw [← same]
    exact grouped.columns name t found

theorem wellFormed (grouped : Grouped schema rows tables) : WellFormed schema tables := by
  refine ⟨grouped.named, grouped.placed, fun name t found => ?_⟩
  obtain ⟨row, member, rfl⟩ := (grouped.present name).mp ⟨t, found⟩
  have lengths := (grouped.columns row.table t found).length_eq
  rw [← List.length_pos_iff, ← lengths, List.length_pos_iff_exists_mem]
  exact ⟨row, by simpa using member⟩

theorem textByType (grouped : Grouped schema rows tables) : TextByType tables := by
  intro name t found c member
  obtain ⟨row, carried⟩ := CatalogRow.carriedTo_of_mem (grouped.columns name t found) member
  rw [carried.isText, carried.oid]

theorem unique (grouped : Grouped schema rows tables) (grouped' : Grouped schema rows tables') : tables = tables' := by
  refine Dict.ext_get? fun name => ?_
  cases found : tables.get? name with
  | none =>
    have absent : ¬∃ t, tables'.get? name = some t := by
      rw [grouped'.present, ← grouped.present]
      simp [found]
    exact (Option.eq_none_iff_forall_ne_some.mpr (not_exists.mp absent)).symm
  | some t =>
    obtain ⟨t', found'⟩ := (grouped'.present name).mpr ((grouped.present name).mp ⟨t, found⟩)
    have carried_once : Relator.RightUnique CatalogRow.CarriedTo := fun _ _ _ => CatalogRow.CarriedTo.unique
    have columns : t.columns = t'.columns :=
      carried_once.forall₂ (grouped.columns name t found) (grouped'.columns name t' found')
    have named : t.name = t'.name := (grouped.named name t found).trans (grouped'.named name t' found').symm
    have placed : t.schema = t'.schema := (grouped.placed name t found).trans (grouped'.placed name t' found').symm
    have same : t = t' := by
      cases t
      cases t'
      simp_all
    rw [found', same]

/-- The rows are counted by their tables. -/
theorem columnCount_eq (grouped : Grouped schema rows tables) : tables.columnCount = rows.length := by
  have count_eq (key : String) (t : Table) (entry : (key, t) ∈ tables.entries) :
      t.columns.length = (rows.map CatalogRow.table).count key := by
    have lengths := (grouped.columns key t (Dict.get?_of_mem entry)).length_eq
    rw [← lengths, List.count, List.countP_map, List.countP_eq_length_filter]
    rfl
  have keys_perm : (tables.entries.map Prod.fst).Perm (rows.map CatalogRow.table).dedup := by
    refine (List.perm_ext_iff_of_nodup tables.keys_nodup (List.nodup_dedup _)).mpr fun key => ?_
    have entry_iff : key ∈ tables.entries.map Prod.fst ↔ ∃ t, tables.get? key = some t := by
      simp [Dict.get?_eq_some_iff]
    rw [entry_iff, grouped.present, List.mem_dedup, List.mem_map]
  calc
    tables.columnCount = (tables.entries.map fun entry => entry.2.columns.length).sum := by
      rw [Tables.columnCount, Dict.values, List.map_map]
      rfl
    _ = ((tables.entries.map Prod.fst).map fun key => (rows.map CatalogRow.table).count key).sum := by
      rw [List.map_map]
      exact congrArg List.sum (List.map_congr_left fun entry member => count_eq entry.1 entry.2 member)
    _ = ((rows.map CatalogRow.table).dedup.map fun key => (rows.map CatalogRow.table).count key).sum :=
      (keys_perm.map _).sum_eq
    _ = (rows.map CatalogRow.table).length := List.sum_map_count_dedup_eq_length _
    _ = rows.length := List.length_map _

end Grouped

theorem FirstFault.unique {names : List String} {rows : List CatalogRow} {cause cause' : CatalogError}
    (fault : FirstFault names rows cause) (fault' : FirstFault names rows cause') : cause = cause' := by
  obtain ⟨row, first, faulty⟩ := fault
  obtain ⟨row', first', faulty'⟩ := fault'
  obtain rfl := first.unique first'
  exact faulty.unique faulty'

namespace Tables
variable {schema : String} {names : List String} {rows : List CatalogRow} {tables : Tables} {cause : CatalogError}

/-- The rows are assembled to their grouping, or refused for the first row without a place. -/
theorem assemble_cases (schema : String) (names : List String) (rows : List CatalogRow) :
    (∃ tables, (∀ row ∈ rows, row.Placed names) ∧ Grouped schema rows tables ∧
      assemble schema names rows = .ok tables) ∨
    ∃ cause, FirstFault names rows cause ∧ assemble schema names rows = .error cause := by
  have placing : (∀ row ∈ rows, row.Placed names) ∧ _ ∨ _ := foldlM_addRow (ofNames_bare schema names)
  obtain ⟨all_placed, whole, ofNames, folded⟩ | ⟨cause, first, fails⟩ := placing
  · have described : Described schema rows whole := described_foldlM (described_bare schema names) folded
    refine .inl ⟨_, all_placed, grouped_filter ofNames described all_placed, ?_⟩
    rw [assemble, folded]
    rfl
  · refine .inr ⟨cause, first, ?_⟩
    rw [assemble, fails]
    rfl

theorem assemble_eq_ok_iff : assemble schema names rows = .ok tables ↔
    (∀ row ∈ rows, row.Placed names) ∧ Grouped schema rows tables := by
  obtain ⟨tables', all_placed, grouped, whole⟩ | ⟨cause, ⟨row, first, -⟩, fails⟩ := assemble_cases schema names rows
  · rw [whole]
    constructor
    · rintro ⟨⟩
      exact ⟨all_placed, grouped⟩
    · rintro ⟨-, grouped'⟩
      rw [grouped.unique grouped']
  · rw [fails]
    constructor
    · rintro ⟨⟩
    · rintro ⟨all_placed, -⟩
      exact absurd (all_placed row first.mem) first.1

theorem assemble_eq_error_iff : assemble schema names rows = .error cause ↔ FirstFault names rows cause := by
  obtain ⟨tables, all_placed, -, whole⟩ | ⟨cause', first', fails⟩ := assemble_cases schema names rows
  · rw [whole]
    constructor
    · rintro ⟨⟩
    · rintro ⟨row, first, -⟩
      exact absurd (all_placed row first.mem) first.1
  · rw [fails]
    constructor
    · rintro ⟨⟩
      exact first'
    · intro first
      rw [first'.unique first]

theorem assemble_wellFormed (assembled : assemble schema names rows = .ok tables) :
    WellFormed schema tables ∧ TextByType tables := by
  have ⟨_, grouped⟩ := assemble_eq_ok_iff.mp assembled
  exact ⟨grouped.wellFormed, grouped.textByType⟩

/-- Tables are assembled exactly when every row has a place; then they are the grouping of the rows, with a column
    for each row, and any rows that differ in how the tables are mixed only are assembled to the same. Otherwise the
    first row without a place is the fault. -/
theorem rows_grouped (schema : String) (names : List String) (rows : List CatalogRow) :
    ((∃ tables, assemble schema names rows = .ok tables) ↔ ∀ row ∈ rows, row.Placed names) ∧
    (∀ tables, assemble schema names rows = .ok tables →
      Grouped schema rows tables ∧ tables.columnCount = rows.length ∧
      ∀ rows', SameByTable rows rows' → assemble schema names rows' = .ok tables) ∧
    (∀ cause, assemble schema names rows = .error cause ↔ FirstFault names rows cause) := by
  refine ⟨⟨?_, fun all_placed => ?_⟩, fun tables assembled => ?_, fun cause => assemble_eq_error_iff⟩
  · rintro ⟨tables, assembled⟩
    exact (assemble_eq_ok_iff.mp assembled).1
  · obtain ⟨tables, -, -, whole⟩ | ⟨cause, ⟨row, first, -⟩, -⟩ := assemble_cases schema names rows
    · exact ⟨tables, whole⟩
    · exact absurd (all_placed row first.mem) first.1
  · obtain ⟨all_placed, grouped⟩ := assemble_eq_ok_iff.mp assembled
    refine ⟨grouped, grouped.columnCount_eq, fun rows' same => assemble_eq_ok_iff.mpr ⟨?_, grouped.congr same⟩⟩
    intro row member
    have of_table : row ∈ rows'.filter fun other => other.table = row.table := by simpa using member
    rw [← same] at of_table
    exact all_placed row (List.mem_filter.mp of_table).1

end Tables

end TableGateway
