import Mathlib
import TableGateway.Link.Change

/-!
# What the texts of statements depend on

Names that a table does not have and values of any kind never show in the text of a statement. Two requests
that agree on the table's own names, on the page and on the kind of filter have the same outcome and the same
text, and where their values agree too, the same statement (`statements_agree`). What a text shows of an
assignment is its column and its number (`Assignment.place`); what it shows of a condition is its shape
(`Condition.SameShape`).
-/
namespace TableGateway

/-! ## Requests that agree -/

/-- The names of a list that are names of a table's columns. -/
def Table.known (t : Table) (names : List String) : List String :=
  names.filter fun name => (t.column? name).isSome

/-- The fields of an order that name columns of a table. -/
def Order.known (order : Order) (t : Table) : Order :=
  order.filter fun field => (t.column? field.name).isSome

/-- Filters of one kind that differ at most in values and in names that the table does not have. -/
inductive Filter.Agrees (t : Table) : Filter → Filter → Prop where
  | none : Agrees t .none .none
  | expression (statement : String) {arguments arguments' : List String}
      (same_count : arguments.length = arguments'.length) :
      Agrees t (.expression ⟨statement, arguments⟩) (.expression ⟨statement, arguments'⟩)
  | search (text text' : String) {columns columns' : List String} (both_empty : columns = [] ↔ columns' = [])
      (same_known : t.known columns = t.known columns') :
      Agrees t (.search text columns) (.search text' columns')

/-- Listings that differ at most in values and in names that the table does not have. -/
structure Listing.Agrees (t : Table) (l l' : Listing) : Prop where
  selection : t.known l.selection = t.known l'.selection
  filter : l.filter.Agrees t l'.filter
  page : l.page = l'.page
  order : l.order.known t = l'.order.known t

/-- Payloads with values for the same columns of a table. -/
def Payload.Agrees (t : Table) (p p' : Payload) : Prop :=
  ∀ name, (t.column? name).isSome → (name ∈ p.keys ↔ name ∈ p'.keys)

/-- The values of a filter: the arguments of an expression, or the text of a search. -/
def Filter.values : Filter → List String
  | .none => []
  | .expression e => e.arguments
  | .search text _ => [text]

/-- Payloads with the same values for the columns of a table. -/
def Payload.SameValues (t : Table) (p p' : Payload) : Prop :=
  ∀ name, (t.column? name).isSome → p.get? name = p'.get? name

/-! ## Names -/

theorem Table.forall_column {t : Table} {P : String → Prop} (holds : ∀ c ∈ t.columns, P c.name) :
    ∀ name, (t.column? name).isSome → P name := by
  intro name known
  obtain ⟨c, found⟩ := Option.isSome_iff_exists.mp known
  have named : c.name = name := by simpa using List.find?_some found
  exact named ▸ holds c (List.mem_of_find?_eq_some found)

theorem Table.columnsNamed_known (t : Table) (names : List String) :
    t.columnsNamed (t.known names) = t.columnsNamed names := by
  rw [Table.columnsNamed, Table.known, List.filterMap_filter]
  refine List.filterMap_congr fun name _ => ?_
  cases found : t.column? name <;> simp

theorem Order.terms_known (order : Order) (t : Table) : (order.known t).terms t = order.terms t := by
  rw [Order.terms, Order.known, List.filterMap_filter]
  refine List.filterMap_congr fun field _ => ?_
  cases found : t.column? field.name <;> simp

theorem Selection.text_eq {t : Table} {s s' : Selection} (same : t.known s = t.known s') :
    s.text t = s'.text t := by
  have columns : t.columnsNamed s = t.columnsNamed s' := by
    rw [← t.columnsNamed_known s, same, t.columnsNamed_known s']
  rw [Selection.text, Selection.columns, columns]
  rfl

theorem Order.effectiveTerms_eq {t : Table} {o o' : Order} (same : o.known t = o'.known t) :
    o.effectiveTerms t = o'.effectiveTerms t := by
  have terms : o.terms t = o'.terms t := by
    rw [← o.terms_known t, same, o'.terms_known t]
  rw [Order.effectiveTerms, terms]
  rfl

/-! ## Conditions -/

/-- Conditions that differ at most in the values of their parameters. -/
structure Sql.Condition.SameShape (c c' : Sql.Condition) : Prop where
  text : c.text = c'.text
  count : c.parameters.length = c'.parameters.length
  inferred : c.inferred = c'.inferred
  restricts : c = .all ↔ c' = .all

theorem Filter.searched_eq {t : Table} {columns columns' : List String} (both_empty : columns = [] ↔ columns' = [])
    (same_known : t.known columns = t.known columns') : searched columns t = searched columns' t := by
  cases columns with
  | nil => rw [both_empty.mp rfl]
  | cons name names =>
    cases columns' with
    | nil => exact absurd (both_empty.mpr rfl) (by simp)
    | cons name' names' =>
      rw [searched, searched, ← t.columnsNamed_known, same_known, t.columnsNamed_known]
      all_goals simp

theorem Filter.Agrees.sameShape {t : Table} {f f' : Filter} (agrees : f.Agrees t f') :
    (f.condition t).SameShape (f'.condition t) := by
  cases agrees with
  | none => exact ⟨rfl, rfl, rfl, Iff.rfl⟩
  | expression statement same_count =>
    simp only [Filter.condition, Expression.condition]
    split
    · exact ⟨rfl, rfl, rfl, Iff.rfl⟩
    · exact ⟨rfl, by simpa [Sql.Condition.parameters] using same_count, same_count, by simp⟩
  | search text text' both_empty same_known =>
    simp only [Filter.condition, searched_eq both_empty same_known]
    split
    · exact ⟨rfl, rfl, rfl, Iff.rfl⟩
    · exact ⟨rfl, rfl, rfl, by simp⟩

theorem Filter.Agrees.condition_eq {t : Table} {f f' : Filter} (agrees : f.Agrees t f')
    (same_values : f.values = f'.values) : f.condition t = f'.condition t := by
  cases agrees with
  | none => rfl
  | expression statement _ =>
    have same : _ = _ := same_values
    simp only [Filter.values] at same
    rw [same]
  | search text text' both_empty same_known =>
    obtain rfl : text = text' := by simpa [Filter.values] using same_values
    simp only [Filter.condition, searched_eq both_empty same_known]

/-! ## Assignments -/

theorem Payload.Agrees.known_keys {t : Table} {p p' : Payload} (agrees : p.Agrees t p') :
    t.known p.keys = t.known p'.keys := by
  -- Both lists increase, so it is enough that they have the same members.
  refine List.Pairwise.eq_of_mem_iff (r := (· < ·)) (p.ordered.filter _) (p'.ordered.filter _) ?_
  intro name
  simp only [Table.known, List.mem_filter]
  constructor
  · rintro ⟨member, column⟩
    exact ⟨(agrees name column).mp member, column⟩
  · rintro ⟨member, column⟩
    exact ⟨(agrees name column).mpr member, column⟩

/-- The columns of a payload are those that its keys name. -/
theorem Payload.columns_eq (p : Payload) (t : Table) : (p.known t).map Prod.fst = t.columnsNamed p.keys := by
  rw [Payload.known, List.map_filterMap, Dict.keys, Table.columnsNamed, List.filterMap_map]
  refine List.filterMap_congr fun entry _ => ?_
  cases found : t.column? entry.1 <;> simp [found]

theorem Payload.known_eq (p : Payload) (t : Table) :
    p.known t = (t.known p.keys).filterMap fun name =>
      (t.column? name).bind fun c => (p.get? name).map fun value => (c, value) := by
  rw [Table.known, List.filterMap_filter, Payload.known, Dict.keys, List.filterMap_map]
  refine List.filterMap_congr fun entry member => ?_
  have value : p.get? entry.1 = some entry.2 := Dict.get?_of_mem member
  cases found : t.column? entry.1 <;> simp [found, value]

theorem Payload.Agrees.known_eq {t : Table} {p p' : Payload} (agrees : p.Agrees t p')
    (same_values : p.SameValues t p') : p.known t = p'.known t := by
  rw [p.known_eq, p'.known_eq, agrees.known_keys]
  refine List.filterMap_congr fun name member => ?_
  rw [same_values name (List.mem_filter.mp member).2]

/-- What a text shows of an assignment. -/
def Assignment.place (a : Assignment) : Column × Nat :=
  (a.column, a.position)

theorem Payload.places_eq (p : Payload) (t : Table) (offset : Nat) :
    (p.assignments t offset).map Assignment.place =
      (t.columnsNamed p.keys).mapIdx fun i c => (c, offset + i + 1) := by
  rw [← p.columns_eq]
  refine List.ext_getElem? fun i => ?_
  simp only [Payload.assignments, List.getElem?_map, List.getElem?_mapIdx, Option.map_map]
  rfl

theorem Payload.Agrees.places_eq {t : Table} {p p' : Payload} (agrees : p.Agrees t p') (offset : Nat) :
    (p.assignments t offset).map Assignment.place = (p'.assignments t offset).map Assignment.place := by
  rw [p.places_eq, p'.places_eq, ← t.columnsNamed_known, agrees.known_keys, t.columnsNamed_known]

namespace Sql
section
variable {as bs : List Assignment}

theorem map_eq_of_places {α : Type} (same : as.map Assignment.place = bs.map Assignment.place)
    (shown : Column × Nat → α) : as.map (fun a => shown a.place) = bs.map fun b => shown b.place := by
  simpa [Function.comp_def] using congrArg (List.map shown) same

theorem insertText_eq (t : Table) (same : as.map Assignment.place = bs.map Assignment.place) :
    insertText t as = insertText t bs := by
  have names := map_eq_of_places same fun place => place.1.quotedName
  have placeholders := map_eq_of_places same fun place => place.1.placeholder place.2
  exact congrArg₂ (fun names placeholders => "INSERT INTO " ++ t.quotedName ++ " (" ++ ", ".intercalate names ++
    ") VALUES (" ++ ", ".intercalate placeholders ++ ") RETURNING *") names placeholders

theorem updateHead_eq (t : Table) (same : as.map Assignment.place = bs.map Assignment.place) :
    updateHead t as = updateHead t bs := by
  have sets := map_eq_of_places same fun place => place.1.quotedName ++ " = " ++ place.1.placeholder place.2
  exact congrArg (fun sets => "UPDATE " ++ t.quotedName ++ " SET " ++ ", ".intercalate sets) sets

theorem places_cases (same : as.map Assignment.place = bs.map Assignment.place) :
    as = [] ∧ bs = [] ∨ ∃ a as' b bs', as = a :: as' ∧ bs = b :: bs' := by
  cases as with
  | nil => exact .inl ⟨rfl, List.map_eq_nil_iff.mp same.symm⟩
  | cons a as =>
    cases bs with
    | nil => simp at same
    | cons b bs => exact .inr ⟨a, as, b, bs, rfl, rfl⟩

end

/-! ## Statements -/

theorem select_text_eq {t : Table} {l l' : Listing} (agrees : l.Agrees t l') :
    (select t l).text = (select t l').text := by
  simp only [select, selectHead, Selection.text_eq agrees.selection, Order.effectiveTerms_eq agrees.order,
    agrees.filter.sameShape.text, agrees.page]

theorem insert_text_eq {t : Table} {p p' : Payload} (agrees : p.Agrees t p') :
    (insert t p).map (·.text) = (insert t p').map (·.text) := by
  have places := agrees.places_eq 0
  unfold insert
  rcases places_cases places with ⟨first, second⟩ | ⟨a, as, b, bs, first, second⟩
  · rw [first, second]
  · rw [first, second] at places ⊢
    simp only [Except.map, insertText_eq t places]

theorem update_text_eq {t : Table} {f f' : Filter} {p p' : Payload} (filter : f.Agrees t f')
    (payload : p.Agrees t p') : (update t f p).map (·.text) = (update t f' p').map (·.text) := by
  have shape := filter.sameShape
  have places := payload.places_eq (f.condition t).parameters.length
  simp only [update, ← shape.count]
  rcases places_cases places with ⟨first, second⟩ | ⟨a, as, b, bs, first, second⟩
  · rw [first, second]
  · rw [first, second] at places ⊢
    simp only [Except.map, updateHead_eq t places, shape.text]

theorem delete_text_eq {t : Table} {f f' : Filter} (agrees : f.Agrees t f') :
    (delete t f).map (·.text) = (delete t f').map (·.text) := by
  have shape := agrees.sameShape
  by_cases unrestricted : f.condition t = .all
  · simp only [delete, if_pos unrestricted, if_pos (shape.restricts.mp unrestricted)]
  · have restricted : f'.condition t ≠ .all := fun all => unrestricted (shape.restricts.mpr all)
    simp only [delete, if_neg unrestricted, if_neg restricted, Except.map, shape.text]

theorem insert_eq {t : Table} {p p' : Payload} (agrees : p.Agrees t p') (same_values : p.SameValues t p') :
    insert t p = insert t p' := by
  simp only [insert, Payload.assignments, agrees.known_eq same_values]

theorem update_eq {t : Table} {f f' : Filter} {p p' : Payload} (filter : f.Agrees t f')
    (payload : p.Agrees t p') (same_arguments : f.values = f'.values) (same_values : p.SameValues t p') :
    update t f p = update t f' p' := by
  simp only [update, Payload.assignments, filter.condition_eq same_arguments, payload.known_eq same_values]

theorem select_eq {t : Table} {l l' : Listing} (agrees : l.Agrees t l')
    (same_arguments : l.filter.values = l'.filter.values) : select t l = select t l' := by
  simp only [select, selectHead, Selection.text_eq agrees.selection, Order.effectiveTerms_eq agrees.order,
    agrees.filter.condition_eq same_arguments, agrees.page]

theorem delete_eq {t : Table} {f f' : Filter} (agrees : f.Agrees t f') (same_arguments : f.values = f'.values) :
    delete t f = delete t f' := by
  simp only [delete, agrees.condition_eq same_arguments]

end Sql

/-! ## Links -/

namespace Link

theorem length_pairs (link : Link) (id : Sql.Parameter) (others : List Json) :
    (link.pairs id others).length = others.length * if link.relation.bidirectional then 2 else 1 := by
  rw [pairs, List.length_flatMap]
  split <;> simp [*]

/-- The texts of a plan's steps say how many keys there are and nothing of the keys. -/
theorem map_stepText_plan (link : Link) (id : Sql.Parameter) (change : LinkChange) :
    (link.plan id change).map link.stepText =
      List.replicate (link.pairs id change.deleted).length link.removeText ++
        List.replicate (link.pairs id change.added).length link.addText := by
  simp only [plan, List.map_append, List.map_map, Function.comp_def, stepText, List.map_const']

end Link

namespace Sql

/-- Requests that differ at most in values and in names that the table does not have come to the same end with
    the same text, and where their values are the same too, with the same statement. The texts for links depend
    on the number of keys only. -/
theorem statements_agree (t : Table) {l l' : Listing} {p p' : Payload} (listing : l.Agrees t l')
    (payload : p.Agrees t p') :
    ((select t l).text = (select t l').text ∧
      (insert t p).map (·.text) = (insert t p').map (·.text) ∧
      (update t l.filter p).map (·.text) = (update t l'.filter p').map (·.text) ∧
      (delete t l.filter).map (·.text) = (delete t l'.filter).map (·.text)) ∧
    (l.filter.values = l'.filter.values →
      select t l = select t l' ∧ delete t l.filter = delete t l'.filter) ∧
    (p.SameValues t p' → insert t p = insert t p') ∧
    (l.filter.values = l'.filter.values → p.SameValues t p' → update t l.filter p = update t l'.filter p') ∧
    ∀ (link : Link) (id id' : Parameter), (link.relatedRows id).text = (link.relatedRows id').text ∧
      ∀ change change' : LinkChange, change.deleted.length = change'.deleted.length →
        change.added.length = change'.added.length →
          (link.plan id change).map link.stepText = (link.plan id' change').map link.stepText := by
  refine ⟨⟨?_, ?_, ?_, ?_⟩, ?_, ?_, ?_, ?_⟩
  · exact select_text_eq listing
  · exact insert_text_eq payload
  · exact update_text_eq listing.filter payload
  · exact delete_text_eq listing.filter
  · intro same_arguments
    exact ⟨select_eq listing same_arguments, delete_eq listing.filter same_arguments⟩
  · intro same_values
    exact insert_eq payload same_values
  · intro same_arguments same_values
    exact update_eq listing.filter payload same_arguments same_values
  · intro link id id'
    refine ⟨rfl, ?_⟩
    intro change change' deleted added
    rw [link.map_stepText_plan, link.map_stepText_plan]
    simp only [link.length_pairs, deleted, added]

/-- A table with two columns. -/
def people : Table :=
  ⟨"people", "public",
    [⟨"name", 25, "text", "text", true, false, none, true, none⟩,
      ⟨"age", 23, "integer", "int4", false, true, none, false, none⟩]⟩

theorem statements_agree_people :
    let l : Listing := ⟨["x\x22; --", "age"], .search "ann" ["$1", "name"], .first, [⟨"'", .ascending⟩]⟩
    let p : Payload := .ofList [("age", .null), ("x\x22; --", .string "1")]
    (let l' : Listing := ⟨["age", "/*"], .search "' OR 1 = 1" ["name"], .first, []⟩
      let p' : Payload := .ofList [("age", .string "'; --")]
      (l.Agrees people l' ∧ p.Agrees people p') ∧ (select people l).text = (select people l').text ∧
        (insert people p).map (·.text) = (insert people p').map (·.text) ∧
        (update people l.filter p).map (·.text) = (update people l'.filter p').map (·.text) ∧
        (delete people l.filter).map (·.text) = (delete people l'.filter).map (·.text)) ∧
    (let l' : Listing := ⟨["age"], .search "ann" ["name", "/*"], .first, [⟨"$2", .descending⟩]⟩
      let p' : Payload := .ofList [("age", .null), ("--", .null)]
      (l.Agrees people l' ∧ p.Agrees people p') ∧
        (l.filter.values = l'.filter.values ∧ p.SameValues people p') ∧ select people l = select people l' ∧
        delete people l.filter = delete people l'.filter ∧ insert people p = insert people p' ∧
        update people l.filter p = update people l'.filter p') := by
  intro l p
  refine ⟨?_, ?_⟩
  · intro l' p'
    have listing : l.Agrees people l' := ⟨by decide, .search _ _ (by decide) (by decide), rfl, by decide⟩
    have payload : p.Agrees people p' := Table.forall_column (by decide)
    exact ⟨⟨listing, payload⟩, (statements_agree people listing payload).1⟩
  · intro l' p'
    have listing : l.Agrees people l' := ⟨by decide, .search _ _ (by decide) (by decide), rfl, by decide⟩
    have payload : p.Agrees people p' := Table.forall_column (by decide)
    have same_values : p.SameValues people p' := by
      refine Table.forall_column ?_
      simp only [people, List.forall_mem_cons, List.not_mem_nil, false_imp_iff, implies_true, and_true]
      exact ⟨rfl, rfl⟩
    obtain ⟨-, listed, inserted, updated, -⟩ := statements_agree people listing payload
    exact ⟨⟨listing, payload⟩, ⟨rfl, same_values⟩, (listed rfl).1, (listed rfl).2, inserted same_values,
      updated rfl same_values⟩

end Sql
end TableGateway
