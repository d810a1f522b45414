import Mathlib
import TableGateway.Sql.Condition

/-!
# Delimited lists

Joining the pieces of a text gives it back, and none of them holds the delimiter (`intercalate_splitText`,
`not_mem_splitText`). Cutting undoes joining too, if there is a text to join and none holds the delimiter
(`splitText_intercalate`). So the arguments of an expression come back from a query, empty ones included; only a single
empty argument does not, since it is written like no argument at all (`arguments_bound_iff`).
-/
namespace TableGateway

theorem pieces_eq_splitOn (delimiter : Char) (text : List Char) : pieces delimiter text = text.splitOn delimiter := by
  induction text with
  | nil => rfl
  | cons c rest ih =>
    rw [List.splitOn_eq_splitOnP, List.splitOnP_cons_eq_if_modifyHead, ← List.splitOn_eq_splitOnP, ← ih, pieces]
    cases given : pieces delimiter rest with
    | nil => exact absurd given (pieces_ne_nil delimiter rest)
    | cons piece more => simp

theorem splitText_intercalate {delimiter : Char} {texts : List String} (some_text : texts ≠ [])
    (free : ∀ s ∈ texts, delimiter ∉ s.toList) :
    splitText delimiter ((String.ofList [delimiter]).intercalate texts) = texts := by
  have free_chars : ∀ chars ∈ texts.map String.toList, delimiter ∉ chars := by
    simpa using free
  rw [splitText, String.toList_intercalate, String.toList_ofList, pieces_eq_splitOn,
    List.splitOn_intercalate delimiter free_chars (by simpa using some_text), List.map_map]
  simp [Function.comp_def]

theorem not_mem_pieces {delimiter : Char} {text piece : List Char} (member : piece ∈ pieces delimiter text) :
    delimiter ∉ piece := by
  induction text generalizing piece with
  | nil =>
    obtain rfl : piece = [] := by simpa [pieces] using member
    exact List.not_mem_nil
  | cons c rest ih =>
    rw [pieces] at member
    split at member
    · obtain rfl | member := List.mem_cons.mp member
      · exact List.not_mem_nil
      · exact ih member
    · rename_i apart
      cases given : pieces delimiter rest with
      | nil => exact absurd given (pieces_ne_nil delimiter rest)
      | cons first more =>
        rw [given] at member ih
        obtain rfl | member := List.mem_cons.mp member
        · exact List.not_mem_cons_of_ne_of_not_mem (Ne.symm apart) (ih (.head _))
        · exact ih (.tail _ member)

theorem not_mem_splitText {delimiter : Char} {text s : String} (member : s ∈ splitText delimiter text) :
    delimiter ∉ s.toList := by
  obtain ⟨piece, piece_member, rfl⟩ := List.mem_map.mp member
  rw [String.toList_ofList]
  exact not_mem_pieces piece_member

theorem intercalate_splitText (delimiter : Char) (text : String) :
    (String.ofList [delimiter]).intercalate (splitText delimiter text) = text := by
  rw [← String.toList_inj, String.toList_intercalate, splitText, List.map_map]
  simp [Function.comp_def, intercalate_pieces]

/-- Joined texts are the empty text only if there is none, or an empty one alone. -/
theorem intercalate_eq_empty_iff {delimiter : String} (visible : delimiter ≠ "") (texts : List String) :
    delimiter.intercalate texts = "" ↔ texts = [] ∨ texts = [""] := by
  match texts with
  | [] => simp
  | [text] => simp
  | first :: second :: rest =>
    rw [String.intercalate_cons_cons]
    simp [visible]

/-! ## Arguments of an expression -/

/-- The arguments that are read for a list of arguments without delimiters, as it is written in a query. -/
theorem Expression.arguments_ofText {arguments : List String} (some_argument : arguments ≠ [])
    (free : ∀ a ∈ arguments, listDelimiter ∉ a.toList) (statement : String) :
    (Expression.ofText statement ("|".intercalate arguments)).arguments =
      if arguments = [""] then [] else arguments := by
  have empty_iff := intercalate_eq_empty_iff (by decide : "|" ≠ "") arguments
  by_cases alone : arguments = [""]
  · rw [if_pos alone, Expression.ofText, if_pos (empty_iff.mpr (.inr alone))]
  · have written : "|".intercalate arguments ≠ "" := fun empty =>
      (empty_iff.mp empty).elim some_argument alone
    rw [if_neg alone, Expression.ofText, if_neg written]
    exact splitText_intercalate some_argument free

/-- The arguments that a query gives for its expression are bound as they are, one after the other, unless there is
    only one and it is empty: then none is bound. -/
theorem arguments_bound_iff {query : Dict String} {statement : String} {arguments : List String}
    (no_search : ∀ text, query.get? "textFilters" = some text → text = "")
    (given : query.get? "filters" = some statement) (written : isBlankText statement = false)
    (joined : query.get? "filtersArgs" = some ("|".intercalate arguments)) (some_argument : arguments ≠ [])
    (free : ∀ a ∈ arguments, '|' ∉ a.toList) (t : Table) :
    let condition := (Filter.ofQuery query).condition t
    condition.text = "WHERE " ++ statement ∧ condition.inferred = condition.parameters.length ∧
    (condition.parameters = arguments.map .text ↔ arguments ≠ [""]) ∧
    (arguments = [""] → condition.parameters = []) := by
  intro condition
  have read := Expression.arguments_ofText some_argument free statement
  have meant : condition = .expression (.ofText statement ("|".intercalate arguments)) := by
    simp only [condition, Filter.ofQuery_of_no_search no_search, Filter.ofQuery.ofStatement, given, written, joined]
    simp [Filter.condition, Expression.condition, Expression.ofText, written]
  rw [meant, Sql.Condition.parameters, Sql.Condition.inferred, read]
  refine ⟨rfl, by simp, ?_, ?_⟩
  · split <;> simp_all
  · rintro rfl
    rfl

def places : Table :=
  ⟨"places", "public",
    [⟨"zip", 1043, "character varying", "varchar", true, false, none, true, none⟩,
      ⟨"name", 25, "text", "text", true, true, none, false, none⟩]⟩

/-- A query with an expression and what is written for its arguments. -/
def placesQuery (statement arguments : String) : Dict String :=
  .ofList [("filters", statement), ("filtersArgs", arguments)]

theorem arguments_bound_iff_places :
    let query := placesQuery "zip = $1 OR name IN ($2, $3)" "02139||Ann "
    ((∀ text, query.get? "textFilters" = some text → text = "") ∧
      query.get? "filters" = some "zip = $1 OR name IN ($2, $3)" ∧
      isBlankText "zip = $1 OR name IN ($2, $3)" = false ∧
      query.get? "filtersArgs" = some ("|".intercalate ["02139", "", "Ann "])) ∧
    ((Filter.ofQuery query).condition places).inferred = 3 ∧
    ((Filter.ofQuery query).condition places).parameters = [.text "02139", .text "", .text "Ann "] := by
  intro query
  have no_search : ∀ text, query.get? "textFilters" = some text → text = "" := by
    intro text given
    have absent : query.get? "textFilters" = none := by rfl
    cases absent.symm.trans given
  have given : query.get? "filters" = some "zip = $1 OR name IN ($2, $3)" := by rfl
  have written : isBlankText "zip = $1 OR name IN ($2, $3)" = false := by decide
  have joined : query.get? "filtersArgs" = some ("|".intercalate ["02139", "", "Ann "]) := by rfl
  obtain ⟨-, inferred, bound, -⟩ := arguments_bound_iff no_search given written joined (by decide) (by decide) places
  have parameters := bound.mpr (by decide)
  exact ⟨⟨no_search, given, written, joined⟩, by rw [inferred, parameters]; rfl, parameters⟩

/-- A single empty argument is not bound, so the reference to it has no value. -/
theorem empty_argument_unbound :
    let query := placesQuery "name = $1" ("|".intercalate [""])
    (query.get? "textFilters" = none ∧ query.get? "filters" = some "name = $1" ∧
      query.get? "filtersArgs" = some ("|".intercalate [""])) ∧
    ((Filter.ofQuery query).condition places).text = "WHERE name = $1" ∧
    ((Filter.ofQuery query).condition places).parameters = [] ∧
    ((Filter.ofQuery query).condition places).inferred = 0 ∧
    ((Filter.ofQuery query).condition places).parameters ≠ [""].map .text := by
  decide

end TableGateway
