import Mathlib
import TableGateway.Http.Service
import TableGateway.Proofs.RowFetching

/-!
# Which rows a request reaches

A query restricts rows by a text to search for or by an expression that is not blank (`Restricts`). Without
either nothing is deleted, and a deletion that is sent has a condition (`Deleting`). A search never means every
row: it tests the columns that it looks at, or holds for no row where there is none (`SearchClause`), whether its
names come from the query, from settings that were saved for another shape of the table, or from the columns of
text. Both are drawn together in `rows_restricted`.
-/
namespace TableGateway

/-! ## Searches -/

/-- Holds for the columns that a search with these names looks at: those of the names, or those of text. -/
def Searched (t : Table) (names : List String) (c : Column) : Prop :=
  (names = [] ∧ c ∈ t.columns ∧ c.isText = true) ∨ ∃ name ∈ names, t.column? name = some c

/-- The clause and the parameters of a search. -/
inductive SearchClause (t : Table) (names : List String) (text : String) : String → List Sql.Parameter → Prop where
  | nowhere (none_searched : ∀ c, ¬ Searched t names c) : SearchClause t names text "WHERE FALSE" []
  | somewhere {columns : List Column} (some_searched : columns ≠ [])
      (exactly : ∀ c, c ∈ columns ↔ Searched t names c) :
      SearchClause t names text
        ("WHERE " ++ " OR ".intercalate (columns.map fun c => c.quotedName ++ "::text ILIKE $1"))
        [.text ("%" ++ lowerCase text ++ "%")]

/-- What a restricted statement does with the rows. -/
inductive RowsKind where
  | select
  | update
  | delete

/-- A statement on a table with a clause and its parameters. -/
inductive RestrictedBy (t : Table) (clause : String) (parameters : List Sql.Parameter) :
    RowsKind → Sql.Statement → Prop where
  | select (selection : Selection) (terms : List (Column × Direction)) (page : Page) :
      RestrictedBy t clause parameters .select
        ⟨Sql.selectHead t selection ++ " " ++ clause ++ " " ++ Sql.joinClauses [Order.clause terms, page.text],
          parameters, 0⟩
  | update (assignments : List Assignment) (behind : ∀ a ∈ assignments, parameters.length < a.position) :
      RestrictedBy t clause parameters .update
        ⟨Sql.updateHead t assignments ++ " " ++ clause ++ " RETURNING *",
          parameters ++ assignments.map (·.value), 0⟩
  | delete :
      RestrictedBy t clause parameters .delete
        ⟨"DELETE FROM " ++ t.quotedName ++ " " ++ clause ++ " RETURNING *", parameters, 0⟩

/-- The names of the columns that a query searches. -/
def searchNames (query : Dict String) : List String :=
  ((query.get? "textFiltersCols").map delimitedNames).getD []

/-- The calls for the rows that a query asks for, with what they do and the names of the columns to search. -/
inductive Searching (t : Table) (query : Dict String) : {α : Type} → Call α → RowsKind → List String → Prop where
  | list (greatest : UInt32) : Searching t query (t.list (.ofQuery query greatest)) .select (searchNames query)
  | update {payload : Payload} (named : ∃ name ∈ payload.keys, (t.column? name).isSome) :
      Searching t query (t.update (.ofQuery query) payload) .update (searchNames query)
  | delete : Searching t query (t.delete (.ofQuery query)) .delete (searchNames query)
  | view (greatest : UInt32) (settings : TableSettings) :
      Searching t query (t.view (.ofQuery query greatest) settings) .select
        (if searchNames query = [] then settings.searchColumns else searchNames query)

section
variable {t : Table} {names : List String} {text : String} {c : Column}

theorem mem_searched_iff : c ∈ Filter.searched names t ↔ Searched t names c := by
  cases names with
  | nil => simp [Filter.searched, Searched, Table.textColumns]
  | cons name rest => simp [Filter.searched, Searched, Table.columnsNamed]

theorem condition_search_cases (t : Table) (names : List String) (text : String) :
    (Filter.searched names t = [] ∧ (Filter.search text names).condition t = .nothing) ∨
      ∃ columns, columns ≠ [] ∧ Filter.searched names t = columns ∧
        (Filter.search text names).condition t = .matching columns (Sql.Condition.pattern text) := by
  cases searched : Filter.searched names t with
  | nil => exact .inl ⟨rfl, by simp [Filter.condition, searched]⟩
  | cons first rest => exact .inr ⟨_, List.cons_ne_nil _ _, rfl, by simp [Filter.condition, searched]⟩

theorem searchClause (t : Table) (names : List String) (text : String) :
    SearchClause t names text ((Filter.search text names).condition t).text
      ((Filter.search text names).condition t).parameters := by
  obtain ⟨searched, condition⟩ | ⟨columns, some_searched, searched, condition⟩ := condition_search_cases t names text
  · rw [condition]
    refine .nowhere fun c => ?_
    rw [← mem_searched_iff, searched]
    exact List.not_mem_nil
  · rw [condition]
    refine .somewhere some_searched fun c => ?_
    rw [← searched, mem_searched_iff]

theorem inferred_search (t : Table) (names : List String) (text : String) :
    ((Filter.search text names).condition t).inferred = 0 :=
  (Filter.search text names).inferred_condition t

theorem condition_search_ne_all (t : Table) (names : List String) (text : String) :
    (Filter.search text names).condition t ≠ .all := by
  obtain ⟨-, condition⟩ | ⟨columns, -, -, condition⟩ := condition_search_cases t names text
  · simp [condition]
  · simp [condition]

theorem SearchClause.ne_empty {clause : String} {parameters : List Sql.Parameter}
    (search : SearchClause t names text clause parameters) : clause ≠ "" := by
  cases search with
  | nowhere => decide
  | somewhere => exact Sql.ne_empty_of_append (by decide)

end

/-! ## Statements with a search -/

namespace Sql

theorem joinClauses_cons {first : String} {rest : List String} (written : first ≠ "")
    (goes_on : ∃ clause ∈ rest, clause ≠ "") :
    joinClauses (first :: rest) = first ++ " " ++ joinClauses rest := by
  obtain ⟨clause, member, some_text⟩ := goes_on
  have member : clause ∈ rest.filter (· ≠ "") := List.mem_filter.mpr ⟨member, by simpa using some_text⟩
  cases kept : rest.filter (· ≠ "") with
  | nil =>
    rw [kept] at member
    cases member
  | cons next others =>
    rw [joinClauses, joinClauses, List.filter_cons_of_pos (by simpa using written), kept,
      String.intercalate_cons_cons]

theorem select_search (t : Table) (names : List String) (text : String) (selection : Selection) (page : Page)
    (order : Order) :
    RestrictedBy t ((Filter.search text names).condition t).text ((Filter.search text names).condition t).parameters
      .select (select t ⟨selection, .search text names, page, order⟩) := by
  have written := (searchClause t names text).ne_empty
  have joined : joinClauses [selectHead t selection, ((Filter.search text names).condition t).text,
      Order.clause (order.effectiveTerms t), page.text] =
      selectHead t selection ++ " " ++ ((Filter.search text names).condition t).text ++ " " ++
        joinClauses [Order.clause (order.effectiveTerms t), page.text] := by
    rw [joinClauses_cons (selectHead_ne_empty t selection) ⟨_, .head _, written⟩,
      joinClauses_cons written ⟨page.text, by simp, pageText_ne_empty page⟩]
    simp only [String.append_assoc]
  rw [select, joined, inferred_search]
  exact .select selection (order.effectiveTerms t) page

theorem update_search (t : Table) (names : List String) (text : String) {payload : Payload}
    (named : ∃ name ∈ payload.keys, (t.column? name).isSome) :
    ∃ made, update t (.search text names) payload = .ok made ∧
      RestrictedBy t ((Filter.search text names).condition t).text
        ((Filter.search text names).condition t).parameters .update made := by
  have written := (searchClause t names text).ne_empty
  unfold update
  simp only
  split
  · rename_i nothing
    exact absurd nothing (assignments_ne_nil named _)
  · refine ⟨_, rfl, ?_⟩
    have joined (assignments : List Assignment) :
        joinClauses [updateHead t assignments, ((Filter.search text names).condition t).text, "RETURNING *"] =
          updateHead t assignments ++ " " ++ ((Filter.search text names).condition t).text ++ " RETURNING *" := by
      rw [joinClauses_cons (updateHead_ne_empty t _) ⟨_, .head _, written⟩,
        joinClauses_cons written ⟨"RETURNING *", .head _, by decide⟩]
      simp [joinClauses, String.append_assoc]
    rw [joined, inferred_search]
    exact .update _ fun a member => (assignment_of_mem member).2

theorem delete_search (t : Table) (names : List String) (text : String) :
    delete t (.search text names) =
      .ok ⟨"DELETE FROM " ++ t.quotedName ++ " " ++ ((Filter.search text names).condition t).text ++ " RETURNING *",
        ((Filter.search text names).condition t).parameters, 0⟩ := by
  rw [delete, if_neg (condition_search_ne_all t names text), inferred_search]

end Sql

/-! ## Calls with a search -/

theorem RestrictedBy.inferred_eq {t : Table} {clause : String} {parameters : List Sql.Parameter} {kind : RowsKind}
    {made : Sql.Statement} (restricted : RestrictedBy t clause parameters kind made) : made.inferred = 0 := by
  cases restricted <;> rfl

theorem Filter.ofQuery_search {query : Dict String} {text : String} (given : query.get? "textFilters" = some text)
    (some_text : text ≠ "") : Filter.ofQuery query = .search text (searchNames query) := by
  simp [Filter.ofQuery, given, some_text, searchNames]

theorem Filter.withColumns_search (text : String) (names columns : List String) :
    (Filter.search text names).withColumns columns = .search text (if names = [] then columns else names) := by
  cases names <;> rfl

/-- A call sends nothing but a statement of a kind, which is restricted by a search. -/
def SendsSearch (t : Table) (kind : RowsKind) (names : List String) (text : String) {α : Type} (call : Call α) :
    Prop :=
  ∃ clause parameters made, SearchClause t names text clause parameters ∧ clause ≠ "" ∧
    RestrictedBy t clause parameters kind made ∧
    ∀ {σ : Type} (answer : (e : Effect) → σ → e.Answer × σ) (s : σ), ∃ reply,
      call.dialogue answer s = [⟨.execute (Sql.jsonText made.text) (made.parameters.map .parameter), reply⟩]

section
variable {t : Table} {kind : RowsKind} {names : List String} {text : String}

theorem sendsSearch_fetch {made : Sql.Statement}
    (restricted : RestrictedBy t ((Filter.search text names).condition t).text
      ((Filter.search text names).condition t).parameters kind made) :
    SendsSearch t kind names text made.fetch := by
  have search := searchClause t names text
  refine ⟨_, _, made, search, search.ne_empty, restricted, fun answer s => ?_⟩
  exact (fetched answer made s).of_typed restricted.inferred_eq

theorem SendsSearch.map {α β : Type} {call : Call α} (sends : SendsSearch t kind names text call) (f : α → β) :
    SendsSearch t kind names text (Call.bind call fun value => .done (f value)) := by
  obtain ⟨clause, parameters, made, search, some_clause, restricted, sent⟩ := sends
  refine ⟨clause, parameters, made, search, some_clause, restricted, fun answer s => ?_⟩
  rw [Call.dialogue_bind_done]
  exact sent answer s

end

theorem Searching.sends {t : Table} {query : Dict String} {α : Type} {call : Call α} {kind : RowsKind}
    {names : List String} (searching : Searching t query call kind names) {text : String}
    (given : query.get? "textFilters" = some text) (some_text : text ≠ "") : SendsSearch t kind names text call := by
  have filter := Filter.ofQuery_search given some_text
  cases searching with
  | list greatest =>
    rw [Table.list, Listing.ofQuery, filter]
    exact sendsSearch_fetch (Sql.select_search t _ _ _ _ _)
  | update named =>
    obtain ⟨made, ok, restricted⟩ := Sql.update_search t (searchNames query) text named
    rw [Table.update, filter, ok]
    exact sendsSearch_fetch restricted
  | delete =>
    rw [Table.delete, filter, Sql.delete_search]
    exact sendsSearch_fetch .delete
  | view greatest settings =>
    simp only [Table.view, Table.list, Listing.withSettings, Listing.ofQuery, filter, Filter.withColumns_search]
    exact (sendsSearch_fetch (Sql.select_search t _ _ _ _ _)).map _

theorem update_refused {t : Table} {filter : Filter} {payload : Payload}
    (unnamed : ∀ name ∈ payload.keys, t.column? name = none) :
    t.update filter payload = .fail (.statement (.nothingAssigned t.name)) := by
  have nothing : payload.known t = [] := by
    refine List.filterMap_eq_nil_iff.mpr fun entry member => ?_
    rw [unnamed entry.1 (List.mem_map_of_mem member), Option.map_none]
  have refused : Sql.update t filter payload = .error (.nothingAssigned t.name) := by
    simp [Sql.update, Payload.assignments, nothing]
  rw [Table.update, refused]
  rfl

/-- The columns of text by their names are the columns of text, where no two columns share a name. -/
theorem searched_withDefaults {t : Table} (distinct : t.columnNames.Nodup) (settings : TableSettings) (c : Column) :
    Searched t (settings.withDefaults t).searchColumns c ↔ Searched t settings.searchColumns c := by
  cases given : settings.searchColumns with
  | cons name rest => simp [TableSettings.withDefaults, given]
  | nil =>
    have names : (settings.withDefaults t).searchColumns = t.textColumnNames := by
      simp [TableSettings.withDefaults, given]
    rw [names]
    constructor
    · rintro (⟨-, member, isText⟩ | ⟨name, named, found⟩)
      · exact .inl ⟨rfl, member, isText⟩
      · obtain ⟨d, text_column, rfl⟩ := List.mem_map.mp named
        obtain ⟨member, isText⟩ := List.mem_filter.mp text_column
        rw [(Table.column?_eq_some_iff distinct).mpr ⟨member, rfl⟩] at found
        cases found
        exact .inl ⟨rfl, member, isText⟩
    · rintro (⟨-, member, isText⟩ | ⟨name, named, -⟩)
      · have text_column : c ∈ t.textColumns := List.mem_filter.mpr ⟨member, isText⟩
        exact .inr ⟨c.name, List.mem_map_of_mem text_column, (Table.column?_eq_some_iff distinct).mpr ⟨member, rfl⟩⟩
      · cases named

/-! ## Deletions -/

/-- Holds when a query restricts rows: by a text to search for, or by an expression that is not blank. -/
def Restricts (query : Dict String) : Prop :=
  (∃ text, query.get? "textFilters" = some text ∧ text ≠ "") ∨
    ∃ statement, query.get? "filters" = some statement ∧ ∃ c ∈ statement.toList, isBlank c = false

/-- The conditions under which rows are deleted for a query: the caller's expression with its references cast, or
    what a search means. -/
inductive Deleting (t : Table) (query : Dict String) : String → Prop where
  | caller {statement : String} (no_search : ∀ text, query.get? "textFilters" = some text → text = "")
      (given : query.get? "filters" = some statement) (written : ∃ c ∈ statement.toList, isBlank c = false)
      (types : List (Option String)) : Deleting t query (Sql.castReferences statement types)
  | nowhere {text : String} (given : query.get? "textFilters" = some text) (some_text : text ≠ "") :
      Deleting t query "FALSE"
  | somewhere {text : String} (given : query.get? "textFilters" = some text) (some_text : text ≠ "")
      {columns : List Column} (some_searched : columns ≠ []) (known : ∀ c ∈ columns, c ∈ t.columns) :
      Deleting t query (" OR ".intercalate (columns.map fun c => c.quotedName ++ "::text ILIKE $1"))

/-- The text that deletes the rows of a table under a condition and gives them as one document. -/
def deletionText (t : Table) (condition : String) : String :=
  Sql.jsonText ("DELETE FROM " ++ t.quotedName ++ " WHERE " ++ condition ++ " RETURNING *")

theorem written_iff {statement : String} :
    isBlankText statement = false ↔ ∃ c ∈ statement.toList, isBlank c = false := by
  simp [isBlankText]

theorem Filter.ofQuery_cases (query : Dict String) :
    (∃ text, query.get? "textFilters" = some text ∧ text ≠ "" ∧
        Filter.ofQuery query = .search text (searchNames query)) ∨
      ((∀ text, query.get? "textFilters" = some text → text = "") ∧ ∃ e : Expression,
        query.get? "filters" = some e.statement ∧ isBlankText e.statement = false ∧
          Filter.ofQuery query = .expression e) ∨
      (¬ Restricts query ∧ Filter.ofQuery query = .none) := by
  by_cases search : ∃ text, query.get? "textFilters" = some text ∧ text ≠ ""
  · obtain ⟨text, given, some_text⟩ := search
    exact .inl ⟨text, given, some_text, ofQuery_search given some_text⟩
  · have no_search : ∀ text, query.get? "textFilters" = some text → text = "" := by
      intro text given
      by_contra some_text
      exact search ⟨text, given, some_text⟩
    refine .inr ?_
    rw [ofQuery_of_no_search no_search, ofQuery.ofStatement]
    cases given : query.get? "filters" with
    | none =>
      refine .inr ⟨?_, rfl⟩
      rintro (given' | ⟨other, given', -⟩)
      · exact search given'
      · cases given.symm.trans given'
    | some statement =>
      cases blank : isBlankText statement with
      | false =>
        exact .inl ⟨no_search, .ofText statement ((query.get? "filtersArgs").getD ""), rfl, blank, by simp [blank]⟩
      | true =>
        refine .inr ⟨?_, by simp [blank]⟩
        rintro (given' | ⟨other, given', written⟩)
        · exact search given'
        · cases given.symm.trans given'
          rw [written_iff.mpr written] at blank
          cases blank

section
variable {t : Table} {query : Dict String}

theorem deletionText_eq (t : Table) (condition : String) :
    deletionText t condition =
      Sql.jsonHead ++ ("DELETE FROM " ++ t.quotedName) ++ " " ++ "WHERE " ++ condition ++
        (" RETURNING *" ++ Sql.jsonTail) := by
  have parts : " WHERE " = " " ++ "WHERE " := by decide
  simp only [deletionText, Sql.jsonText_eq, parts, String.append_assoc]

theorem castReferences_deletionText (statement : String) (types : List (Option String)) :
    Sql.castReferences (deletionText t statement) types = deletionText t (Sql.castReferences statement types) := by
  rw [deletionText_eq, deletionText_eq]
  exact Sql.castReferences_between (Sql.passes_jsonHead (Sql.passes_deleteHead t)) (Sql.separate_cons (by decide) _)
    (.inl (by decide))

theorem Searched.mem {names : List String} {c : Column} (searched : Searched t names c) : c ∈ t.columns := by
  obtain ⟨-, member, -⟩ | ⟨name, -, found⟩ := searched
  · exact member
  · exact List.mem_of_find?_eq_some found

theorem SearchClause.deleting {names : List String} {text clause : String} {parameters : List Sql.Parameter}
    (search : SearchClause t names text clause parameters) (given : query.get? "textFilters" = some text)
    (some_text : text ≠ "") : ∃ condition, clause = "WHERE " ++ condition ∧ Deleting t query condition := by
  cases search with
  | nowhere => exact ⟨"FALSE", by decide, .nowhere given some_text⟩
  | somewhere some_searched exactly =>
    exact ⟨_, rfl, .somewhere given some_text some_searched fun c member => ((exactly c).mp member).mem⟩

/-- The conditions of a deletion that is made: one alone, or one for every cast of the caller's expression. -/
theorem delete_made (t : Table) {query : Dict String} (restricts : Restricts query) :
    ∃ made, Sql.delete t (.ofQuery query) = .ok made ∧
      ((made.inferred = 0 ∧ ∃ condition, Deleting t query condition ∧ made.asJson.text = deletionText t condition) ∨
        ∀ types, ∃ condition, Deleting t query condition ∧
          Sql.castReferences made.asJson.text types = deletionText t condition) := by
  obtain ⟨text, given, some_text, filter⟩ | ⟨no_search, e, given, written, filter⟩ | ⟨unrestricted, -⟩ :=
    Filter.ofQuery_cases query
  · have search := searchClause t (searchNames query) text
    obtain ⟨condition, clause_eq, deleting⟩ := search.deleting given some_text
    refine ⟨_, by rw [filter, Sql.delete_search], .inl ⟨rfl, condition, deleting, ?_⟩⟩
    rw [deletionText_eq, Sql.Statement.asJson, Sql.jsonText_eq, clause_eq]
    simp only [String.append_assoc]
  · have restricted : Sql.Condition.expression e ≠ .all := by simp
    refine ⟨_, by rw [filter, Sql.delete, Sql.condition_expression written, if_neg restricted], .inr fun types => ?_⟩
    refine ⟨_, .caller no_search given (written_iff.mp written) types, ?_⟩
    rw [← castReferences_deletionText, deletionText_eq, Sql.Statement.asJson, Sql.jsonText_eq, Sql.Condition.text]
    simp only [String.append_assoc]
  · exact absurd restricts unrestricted

theorem delete_refused (t : Table) {query : Dict String} (unrestricted : ¬ Restricts query) :
    Sql.delete t (.ofQuery query) = .error (.unrestricted t.name) := by
  obtain ⟨text, given, some_text, -⟩ | ⟨-, e, given, written, -⟩ | ⟨-, filter⟩ := Filter.ofQuery_cases query
  · exact absurd (.inl ⟨text, given, some_text⟩) unrestricted
  · exact absurd (.inr ⟨_, given, written_iff.mp written⟩) unrestricted
  · rw [filter]
    rfl

end

/-! ## Handlers -/

section
variable {σ : Type} {answer : (e : Effect) → σ → e.Answer × σ} {s : σ} {name : String} {t : Table}
  (known : (answer .snapshot s).1.get? name = some t)
include known

theorem dialogue_deleteRows (query : Dict String) :
    (Http.Answer.deleteRows name query).dialogue answer s =
      (t.delete (.ofQuery query)).dialogue answer (answer .snapshot s).2 := by
  rw [Http.Answer.deleteRows, Call.bind_eq, Call.dialogue_table answer known]
  exact Call.dialogue_bind_done answer _ _ _

/-- The requests of a view are those of the listing under the settings that are cached, with their defaults. -/
theorem dialogue_viewTable (c : Configuration) (query : Dict String) :
    (Http.Answer.viewTable c name query).dialogue answer s =
      (t.view (.ofQuery query c.maxPageLimit)
        (((answer (.recall t.name) (answer .snapshot s).2).1.getD .blank).withDefaults t)).dialogue answer
        (answer (.recall t.name) (answer .snapshot s).2).2 := by
  rw [Http.Answer.viewTable, Call.bind_eq, Call.dialogue_table answer known]
  exact Call.dialogue_bind_done answer _ _ _

/-- A query that does not restrict rows deletes none and sends nothing. -/
theorem deleteRows_refused {query : Dict String} (unrestricted : ¬ Restricts query) :
    ((Http.Answer.deleteRows name query).run answer s).1 = .error (.statement (.unrestricted t.name)) ∧
      (Http.Answer.deleteRows name query).dialogue answer s = [] := by
  have refused := delete_refused t unrestricted
  constructor
  · rw [Http.Answer.deleteRows, Call.bind_eq, Call.run_table answer known, Table.delete, refused]
    rfl
  · rw [dialogue_deleteRows known, Table.delete, refused]
    rfl

theorem deleteRows_requests (query : Dict String) :
    ∀ a ∈ (Http.Answer.deleteRows name query).dialogue answer s,
      (∃ numbers count, a.request = namesAsked numbers count) ∨
        ∃ condition, Deleting t query condition ∧ Carries (deletionText t condition) a.request := by
  intro a sent
  by_cases restricts : Restricts query
  · obtain ⟨made, ok, conditions⟩ := delete_made t restricts
    rw [dialogue_deleteRows known, Table.delete, ok] at sent
    have fetched := fetched answer made (answer .snapshot s).2
    obtain ⟨typed, condition, deleting, text_eq⟩ | cast := conditions
    · obtain ⟨reply, log⟩ := fetched.of_typed typed
      rw [Call.ofStatement, Call.bind_eq, Call.bind_done, log] at sent
      obtain rfl := List.mem_singleton.mp sent
      exact .inr ⟨condition, deleting, .inr ⟨_, by rw [text_eq]⟩⟩
    · obtain named | ⟨types, carries⟩ := fetched.requests a sent
      · exact .inl named
      · obtain ⟨condition, deleting, text_eq⟩ := cast types
        rw [text_eq] at carries
        exact .inr ⟨condition, deleting, carries⟩
  · rw [(deleteRows_refused known restricts).2] at sent
    cases sent

end

/-- Rows are deleted only for a query that restricts them, and only under a condition of it; a search lists,
    updates, deletes or shows the rows of exactly the columns that it looks at, and no row where there is none. -/
theorem rows_restricted (t : Table) (query : Dict String) :
    (∀ {σ : Type} (answer : (e : Effect) → σ → e.Answer × σ) (s : σ) (name : String),
      (answer .snapshot s).1.get? name = some t →
        let call := Http.Answer.deleteRows name query
        (¬ Restricts query →
          (call.run answer s).1 = .error (.statement (.unrestricted t.name)) ∧ call.dialogue answer s = []) ∧
        ∀ a ∈ call.dialogue answer s, (∃ numbers count, a.request = namesAsked numbers count) ∨
          ∃ condition, Deleting t query condition ∧ Carries (deletionText t condition) a.request) ∧
    (∀ text, query.get? "textFilters" = some text → text ≠ "" →
      ∀ {α : Type} (call : Call α) kind names, Searching t query call kind names →
        SendsSearch t kind names text call) ∧
    (∀ filter payload, (∀ name ∈ payload.keys, t.column? name = none) →
      t.update filter payload = .fail (.statement (.nothingAssigned t.name))) ∧
    (∀ {σ : Type} (answer : (e : Effect) → σ → e.Answer × σ) (s : σ) (name : String),
      (answer .snapshot s).1.get? name = some t → ∀ c,
        let (saved, s') := answer (.recall t.name) (answer .snapshot s).2
        (Http.Answer.viewTable c name query).dialogue answer s =
          (t.view (.ofQuery query c.maxPageLimit) ((saved.getD .blank).withDefaults t)).dialogue answer s') ∧
    (t.columnNames.Nodup → ∀ settings c,
      Searched t (TableSettings.withDefaults settings t).searchColumns c ↔ Searched t settings.searchColumns c) :=
  ⟨fun _ _ _ known => ⟨deleteRows_refused known, deleteRows_requests known query⟩,
    fun _ given some_text _ _ _ _ searching => searching.sends given some_text,
    fun _ _ unnamed => update_refused unnamed, fun _ _ _ known c => dialogue_viewTable known c query,
    searched_withDefaults⟩

/-- Settings that search a column which the table does not have any more. -/
def staleSettings : TableSettings :=
  { TableSettings.blank with searchColumns := ["gone"] }

theorem rows_restricted_orders :
    let blank : Dict String := .ofList [("filters", " ")]
    let search : Dict String := .ofList [("textFilters", "Ann")]
    let unnamed : Payload := .ofList [("gone", .null)]
    let w : World := ⟨.ofList [("orders", Sql.orders)], .empty, false, ⟨none, [], []⟩⟩
    (¬ Restricts blank ∧
      (w.run (Http.Answer.deleteRows "orders" blank)).1 = .error (.statement (.unrestricted "orders")) ∧
      (Http.Answer.deleteRows "orders" blank).dialogue World.answer w = []) ∧
    (search.get? "textFilters" = some "Ann" ∧
      SendsSearch Sql.orders .delete [] "Ann" (Sql.orders.delete (.ofQuery search)) ∧
      SendsSearch Sql.orders .select ["gone"] "Ann" (Sql.orders.view (.ofQuery search 100) staleSettings)) ∧
    (Sql.orders.column? "gone" = none ∧
      Sql.orders.update (.ofQuery search) unnamed = .fail (.statement (.nothingAssigned "orders"))) ∧
    (Http.Answer.viewTable (.ofUrl "postgres://localhost/app") "orders" search).dialogue World.answer w =
      (Sql.orders.view (.ofQuery search (Configuration.ofUrl "postgres://localhost/app").maxPageLimit)
        (TableSettings.blank.withDefaults Sql.orders)).dialogue World.answer w ∧
    (Sql.orders.columnNames.Nodup ∧
      ∀ c, Searched Sql.orders ["note"] c ↔ Searched Sql.orders [] c) := by
  intro blank search unnamed w
  have unrestricted : ¬ Restricts blank := by
    have no_search : blank.get? "textFilters" = none := rfl
    have no_filter : blank.get? "filters" = some " " := rfl
    rintro (⟨text, given, -⟩ | ⟨statement, given, c, member, written⟩)
    · cases no_search.symm.trans given
    · cases no_filter.symm.trans given
      have blank : c = ' ' := by simpa using member
      rw [blank] at written
      exact absurd written (by decide)
  have given : search.get? "textFilters" = some "Ann" := rfl
  have unknown : ∀ name ∈ unnamed.keys, Sql.orders.column? name = none := by decide
  have distinct : Sql.orders.columnNames.Nodup := by decide
  obtain ⟨deletes, -, -, -, -⟩ := rows_restricted Sql.orders blank
  obtain ⟨-, searches, refused, views, defaults⟩ := rows_restricted Sql.orders search
  have some_text : "Ann" ≠ "" := by decide
  obtain ⟨outcome, silent⟩ := (deletes World.answer w "orders" rfl).1 unrestricted
  exact ⟨⟨unrestricted, outcome, silent⟩,
    ⟨given, searches _ given some_text _ _ _ .delete, searches _ given some_text _ _ _ (.view 100 staleSettings)⟩,
    ⟨rfl, refused _ _ unknown⟩, views World.answer w "orders" rfl _, distinct, defaults distinct .blank⟩

end TableGateway
