import Mathlib
import TableGateway.Sql.Statement

/-!
# Where the parameters of a statement stand

A payload fills the columns of a table that it has values for, by increasing name (`Payload.Fills`). An
insertion lists these columns and numbers its parameters from one on; an update assigns to them with the numbers
behind the parameters of its condition. Each number belongs to one column, and the parameter with that number is
the column's value (`statements_number_parameters`).
-/
namespace TableGateway

/-- The columns of a table that a payload has values for, by increasing name, each with its value. -/
structure Payload.Fills (p : Payload) (t : Table) (entries : List (Column × Json)) : Prop where
  increasing : entries.Pairwise fun first second => first.1.name < second.1.name
  exact : ∀ c value, (c, value) ∈ entries ↔ c ∈ t.columns ∧ p.get? c.name = some value

def columnValue (entry : Column × Json) : Sql.Parameter :=
  .ofJson entry.2 entry.1.typeName

/-! ## Columns that are filled -/

theorem Table.column?_eq_some_iff {t : Table} (distinct : t.columnNames.Nodup) {name : String} {c : Column} :
    t.column? name = some c ↔ c ∈ t.columns ∧ c.name = name := by
  constructor
  · intro found
    exact ⟨List.mem_of_find?_eq_some found, by simpa using List.find?_some found⟩
  · rintro ⟨member, rfl⟩
    obtain ⟨first, found⟩ : ∃ first, t.column? c.name = some first :=
      Option.isSome_iff_exists.mp (List.find?_isSome.mpr ⟨c, member, by simp⟩)
    have same_name : first.name = c.name := by simpa using List.find?_some found
    rw [found, List.inj_on_of_nodup_map distinct (List.mem_of_find?_eq_some found) member same_name]

theorem Payload.mem_known_iff {p : Payload} {t : Table} {c : Column} {value : Json} :
    (c, value) ∈ p.known t ↔ ∃ name, (name, value) ∈ p.entries ∧ t.column? name = some c := by
  simp only [Payload.known, List.mem_filterMap, Option.map_eq_some_iff, Prod.mk.injEq, Prod.exists]
  constructor
  · rintro ⟨name, value', member, c', found, rfl, rfl⟩
    exact ⟨name, member, found⟩
  · rintro ⟨name, member, found⟩
    exact ⟨name, value, member, c, found, rfl, rfl⟩

theorem Payload.known_increasing (p : Payload) (t : Table) :
    (p.known t).Pairwise fun first second => first.1.name < second.1.name := by
  have named {name : String} {c : Column} (found : t.column? name = some c) : c.name = name := by
    simpa using List.find?_some found
  rw [Payload.known, List.pairwise_filterMap]
  refine (List.pairwise_map.mp p.ordered).imp ?_
  intro first second before entry first_eq entry' second_eq
  obtain ⟨c, found, rfl⟩ := Option.map_eq_some_iff.mp first_eq
  obtain ⟨c', found', rfl⟩ := Option.map_eq_some_iff.mp second_eq
  simpa [named found, named found'] using before

/-- The entries of a payload that name a column are what it fills. -/
theorem Payload.fills_known (p : Payload) {t : Table} (distinct : t.columnNames.Nodup) :
    p.Fills t (p.known t) where
  increasing := p.known_increasing t
  exact c value := by
    rw [Payload.mem_known_iff]
    constructor
    · rintro ⟨name, member, found⟩
      obtain ⟨column, rfl⟩ := (Table.column?_eq_some_iff distinct).mp found
      exact ⟨column, Dict.get?_of_mem member⟩
    · rintro ⟨column, value⟩
      exact ⟨c.name, Dict.mem_of_get? value, (Table.column?_eq_some_iff distinct).mpr ⟨column, rfl⟩⟩

theorem Payload.Fills.unique {p : Payload} {t : Table} {entries entries' : List (Column × Json)}
    (fills : p.Fills t entries) (fills' : p.Fills t entries') : entries = entries' := by
  have : Std.Irrefl fun first second : Column × Json => first.1.name < second.1.name :=
    ⟨fun entry => String.lt_irrefl entry.1.name⟩
  have : Std.Antisymm fun first second : Column × Json => first.1.name < second.1.name :=
    ⟨fun _ _ before after => absurd (String.lt_trans before after) (String.lt_irrefl _)⟩
  refine fills.increasing.eq_of_mem_iff fills'.increasing ?_
  rintro ⟨c, value⟩
  rw [fills.exact, fills'.exact]

/-! ## Numbers -/

/-- Columns with the numbers of their parameters, which stand behind the first `offset`. -/
def numbered (offset : Nat) (entries : List (Column × Json)) : List (Column × Nat) :=
  entries.mapIdx fun i entry => (entry.1, offset + i + 1)

theorem mem_numbered_iff {offset : Nat} {entries : List (Column × Json)} {c : Column} {n : Nat} :
    (c, n) ∈ numbered offset entries ↔ ∃ i value, entries[i]? = some (c, value) ∧ n = offset + i + 1 := by
  simp only [numbered, List.mem_mapIdx, Prod.mk.injEq]
  constructor
  · rintro ⟨i, inside, rfl, rfl⟩
    exact ⟨i, entries[i].2, List.getElem?_eq_getElem inside, rfl⟩
  · rintro ⟨i, value, found, rfl⟩
    obtain ⟨inside, here⟩ := List.getElem?_eq_some_iff.mp found
    exact ⟨i, inside, by rw [here], rfl⟩

theorem columns_eq (offset : Nat) (entries : List (Column × Json)) :
    (numbered offset entries).map Prod.fst = entries.map Prod.fst := by
  refine List.ext_getElem (by simp [numbered]) ?_
  intro i _ _
  simp [numbered]

theorem numbers_eq (offset : Nat) (entries : List (Column × Json)) :
    (numbered offset entries).map Prod.snd = List.range' (offset + 1) entries.length := by
  refine List.ext_getElem (by simp [numbered]) ?_
  intro i _ _
  simp [numbered]
  omega

theorem existsUnique_numbered {offset n : Nat} {entries : List (Column × Json)} (behind : offset < n)
    (within : n ≤ offset + entries.length) : ∃! c, (c, n) ∈ numbered offset entries := by
  have inside : n - offset - 1 < entries.length := by omega
  refine ⟨entries[n - offset - 1].1, ?_, ?_⟩
  · exact mem_numbered_iff.mpr ⟨n - offset - 1, entries[n - offset - 1].2, List.getElem?_eq_getElem inside, by omega⟩
  · intro c member
    obtain ⟨i, value, found, number⟩ := mem_numbered_iff.mp member
    have here : n - offset - 1 = i := by omega
    subst here
    rw [(List.getElem?_eq_some_iff.mp found).2]

/-- The parameter with a column's number, behind those that come first, is the column's value. -/
theorem getElem?_of_numbered {first : List Sql.Parameter} {entries : List (Column × Json)} {c : Column} {n : Nat}
    (member : (c, n) ∈ numbered first.length entries) :
    ∃ value, (c, value) ∈ entries ∧ (first ++ entries.map columnValue)[n - 1]? = some (columnValue (c, value)) := by
  obtain ⟨i, value, found, rfl⟩ := mem_numbered_iff.mp member
  refine ⟨value, List.mem_of_getElem? found, ?_⟩
  rw [Nat.add_sub_cancel, List.getElem?_append_right (by omega), Nat.add_sub_cancel_left, List.getElem?_map, found]
  rfl

/-! ## Statements -/

namespace Payload
variable (p : Payload) (t : Table) (offset : Nat)

theorem map_value_assignments : (p.assignments t offset).map (·.value) = (p.known t).map columnValue := by
  refine List.ext_getElem (by simp [assignments]) ?_
  intro i _ _
  simp [assignments, assign, columnValue]

/-- What is said of the assignments' columns and positions is said of the numbered columns. -/
theorem map_assignments {α : Type} (shown : Column → Nat → α) :
    ((p.assignments t offset).map fun a => shown a.column a.position) =
      (numbered offset (p.known t)).map fun c => shown c.1 c.2 := by
  refine List.ext_getElem (by simp [assignments, numbered]) ?_
  intro i _ _
  simp [assignments, assign, numbered]

theorem assignments_eq_nil_iff : p.assignments t offset = [] ↔ p.known t = [] := by
  simp [assignments]

end Payload

namespace Sql

/-- The text that inserts a row into columns. -/
def insertion (t : Table) (entries : List (Column × Json)) : String :=
  "INSERT INTO " ++ t.quotedName ++ " (" ++ ", ".intercalate (entries.map (·.1.quotedName)) ++ ") VALUES (" ++
    ", ".intercalate ((numbered 0 entries).map fun c => c.1.placeholder c.2) ++ ") RETURNING *"

/-- The text that assigns to columns with numbers, where a condition holds. -/
def updating (t : Table) (condition : String) (columns : List (Column × Nat)) : String :=
  joinClauses
    ["UPDATE " ++ t.quotedName ++ " SET " ++
      ", ".intercalate (columns.map fun c => c.1.quotedName ++ " = " ++ c.1.placeholder c.2),
     condition, "RETURNING *"]

variable (t : Table) (p : Payload)

theorem insertText_assignments : insertText t (p.assignments t 0) = insertion t (p.known t) := by
  have names := p.map_assignments t 0 fun c _ => c.quotedName
  have columns := congrArg (List.map Column.quotedName) (columns_eq 0 (p.known t))
  rw [List.map_map, List.map_map] at columns
  have placeholders := p.map_assignments t 0 Column.placeholder
  exact congrArg₂ (fun names placeholders => "INSERT INTO " ++ t.quotedName ++ " (" ++ ", ".intercalate names ++
    ") VALUES (" ++ ", ".intercalate placeholders ++ ") RETURNING *") (names.trans columns) placeholders

theorem updateHead_assignments (offset : Nat) (condition : String) :
    joinClauses [updateHead t (p.assignments t offset), condition, "RETURNING *"] =
      updating t condition (numbered offset (p.known t)) := by
  have sets := p.map_assignments t offset fun c n => c.quotedName ++ " = " ++ c.placeholder n
  exact congrArg (fun sets => joinClauses ["UPDATE " ++ t.quotedName ++ " SET " ++ ", ".intercalate sets, condition,
    "RETURNING *"]) sets

/-- An insertion names the columns that the payload fills, and numbers their values from one on. -/
theorem insert_eq_known :
    insert t p =
      if p.known t = [] then .error (.nothingAssigned t.name)
      else .ok ⟨insertion t (p.known t), (p.known t).map columnValue, 0⟩ := by
  by_cases nothing : p.known t = []
  · rw [if_pos nothing, insert, (p.assignments_eq_nil_iff t 0).mpr nothing]
  · obtain ⟨first, rest, assigned⟩ :=
      List.exists_cons_of_ne_nil (mt (p.assignments_eq_nil_iff t 0).mp nothing)
    rw [if_neg nothing, ← insertText_assignments, ← p.map_value_assignments t 0, insert, assigned]

/-- An update assigns to the columns that the payload fills, with numbers behind those of the condition. -/
theorem update_eq_known (f : Filter) :
    update t f p =
      if p.known t = [] then .error (.nothingAssigned t.name)
      else .ok
        ⟨updating t (f.condition t).text (numbered (f.condition t).parameters.length (p.known t)),
          (f.condition t).parameters ++ (p.known t).map columnValue, (f.condition t).inferred⟩ := by
  by_cases nothing : p.known t = []
  · rw [if_pos nothing, update, (p.assignments_eq_nil_iff t _).mpr nothing]
  · obtain ⟨first, rest, assigned⟩ :=
      List.exists_cons_of_ne_nil (mt (p.assignments_eq_nil_iff t (f.condition t).parameters.length).mp nothing)
    rw [if_neg nothing, ← updateHead_assignments, ← p.map_value_assignments t (f.condition t).parameters.length,
      update, assigned]

theorem Condition.inferred_le (c : Condition) : c.inferred ≤ c.parameters.length := by
  cases c <;> simp [Condition.inferred, Condition.parameters]

/-- The columns that a payload fills decide the statements that write it: without any there is none. An insertion
    lists just these columns, numbers their values from one on, and carries just these values. An update assigns
    to just these columns, and carries the parameters of its condition before their values: each number behind
    those of the condition belongs to one column, and the parameter with that number is the value for it. In the
    text a number stands as the reference to its parameter, with a cast that depends on the column alone, so texts
    with different numbers differ. -/
theorem statements_number_parameters {t : Table} (distinct : t.columnNames.Nodup) (f : Filter) (p : Payload) :
    ∃ entries, p.Fills t entries ∧ (∀ entries', p.Fills t entries' → entries' = entries) ∧
      let condition := f.condition t
      let k := condition.parameters.length
      let m := entries.length
      (insert t p = .error (.nothingAssigned t.name) ↔ m = 0) ∧
      (update t f p = .error (.nothingAssigned t.name) ↔ m = 0) ∧
      (∀ c : Column, ∃ cast, (cast = "" ∨ cast = "::" ++ c.typeName) ∧
        ∀ n, c.placeholder n = reference n ++ "::text" ++ cast) ∧
      (∀ (c c' : Column) (n n' : Nat), c.placeholder n = c'.placeholder n' → n = n') ∧
      (m ≠ 0 →
        insert t p = .ok ⟨insertion t entries, entries.map columnValue, 0⟩ ∧
        ∃ updated, update t f p = .ok updated ∧
          updated.text = updating t condition.text (numbered k entries) ∧
          (numbered k entries).map Prod.fst = entries.map Prod.fst ∧
          (numbered k entries).map Prod.snd = List.range' (k + 1) m ∧
          updated.parameters = condition.parameters ++ entries.map columnValue ∧
          updated.parameters.length = k + m ∧ updated.inferred ≤ k ∧
          (∀ j < k, updated.parameters[j]? = condition.parameters[j]?) ∧
          (∀ n, k < n → n ≤ k + m → ∃! c, (c, n) ∈ numbered k entries) ∧
          ∀ c n, (c, n) ∈ numbered k entries → ∃ value, p.get? c.name = some value ∧
            updated.parameters[n - 1]? = some (.ofJson value c.typeName)) := by
  refine ⟨p.known t, p.fills_known distinct, fun _ fills => fills.unique (p.fills_known distinct), ?_⟩
  intro condition k m
  have empty_iff : m = 0 ↔ p.known t = [] := List.length_eq_zero_iff
  rw [insert_eq_known, update_eq_known]
  refine ⟨by rw [empty_iff]; split <;> simp_all, by rw [empty_iff]; split <;> simp_all, Column.exists_placeholder_eq,
    fun _ _ _ _ => Column.placeholder_inj, ?_⟩
  intro nonzero
  have some_column : p.known t ≠ [] := mt empty_iff.mpr nonzero
  rw [if_neg some_column, if_neg some_column]
  refine ⟨rfl, _, rfl, rfl, columns_eq _ _, numbers_eq _ _, rfl, by simp [k, m, condition], condition.inferred_le, ?_,
    fun n => existsUnique_numbered, ?_⟩
  · intro j before
    exact List.getElem?_append_left before
  · intro c n member
    obtain ⟨value, filled, parameter⟩ := getElem?_of_numbered member
    exact ⟨value, ((p.fills_known distinct).exact c value).mp filled |>.2, parameter⟩

/-- A table whose columns stand in another order than their names. -/
def orders : Table :=
  ⟨"orders", "public",
    [⟨"note", 25, "text", "text", true, true, none, false, none⟩,
      ⟨"id", 23, "integer", "int4", false, false, none, true, none⟩,
      ⟨"amount", 1700, "numeric", "numeric", false, true, none, false, none⟩]⟩

/-- An update with two arguments, a name that is no column, and values for two columns. -/
theorem statements_number_parameters_orders :
    let f : Filter := .expression ⟨"id = $1 OR note = $2", ["7", "x"]⟩
    let p : Payload := .ofList [("note", .null), ("$3", .string "9"), ("amount", .string "12.50")]
    orders.columnNames.Nodup ∧
      ∃ entries, p.Fills orders entries ∧ entries.length ≠ 0 ∧
        insert orders p = .ok ⟨insertion orders entries, entries.map columnValue, 0⟩ ∧
        ∃ updated, update orders f p = .ok updated ∧
          updated.parameters = [.text "7", .text "x", .text "12.50", .null] ∧
          (∃! c, (c, 3) ∈ numbered 2 entries) ∧
          ∀ c, (c, 3) ∈ numbered 2 entries → ∃ value, p.get? c.name = some value ∧
            updated.parameters[2]? = some (.ofJson value c.typeName) := by
  intro f p
  have distinct : orders.columnNames.Nodup := by decide
  obtain ⟨entries, fills, unique, -, -, -, -, written⟩ := statements_number_parameters distinct f p
  have known : p.known orders = entries := unique _ (p.fills_known distinct)
  have two : entries.length = 2 := by
    rw [← known]
    rfl
  obtain ⟨inserted, updated, update_eq, -, -, -, parameters, -, -, -, number, value⟩ := written (by omega)
  have within : 3 ≤ 2 + entries.length := by omega
  refine ⟨distinct, entries, fills, by omega, inserted, updated, update_eq, ?_, number 3 (by decide) within,
    fun c => value c 3⟩
  rw [parameters, ← known]
  rfl

end Sql
end TableGateway
