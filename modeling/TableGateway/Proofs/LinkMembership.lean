import Mathlib
import TableGateway.Link.Rows

/-!
# Which rows are linked

A join table holds pairs of keys, none of them NULL (`JoinTable`), and a server may fail any request (`Server`).
A change of links either ends with the pairs that it removed taken out and those that it added put in, or leaves
the pairs as they were (`change_membership`). The steps of a change are statements, whose effect on the pairs is
that of the step (`run_execute_step`); a whole list of steps has the effect of one after the other
(`run_runSteps`), and the transaction around it keeps all of it or nothing (`run_transaction`).
-/
namespace TableGateway

/-! ## Pairs -/

/-- The pairs of a join table after a step. NULL is in no pair, so removing it removes nothing, and adding it
    fails. -/
def LinkStep.after? : LinkStep → Set (String × String) → Option (Set (String × String))
  | .remove (.text main) (.text related), pairs => some (pairs \ {(main, related)})
  | .remove _ _, pairs => some pairs
  | .add (.text main) (.text related), pairs => some (pairs ∪ {(main, related)})
  | .add _ _, _ => none

/-- The pairs after steps, one after the other. -/
def LinkStep.afterAll? (steps : List LinkStep) (pairs : Set (String × String)) :
    Option (Set (String × String)) :=
  steps.foldlM (fun pairs step => step.after? pairs) pairs

/-- The pairs between a row and the rows with the given keys; the reversed ones too, when the relation goes both
    ways. -/
def Link.between (link : Link) (id : String) (others : List Json) : Set (String × String) :=
  { pair | ∃ other ∈ others, ∃ key, Sql.Parameter.ofJson other link.relatedColumn.typeName = .text key ∧
    (pair = (id, key) ∨ link.relation.bidirectional = true ∧ pair = (key, id)) }

/-! ## Servers -/

/-- A join table: the pairs it holds, those that it held when the last transaction began, and how many requests
    came. -/
structure JoinTable where
  pairs : Set (String × String)
  saved : Set (String × String)
  asked : Nat

/-- What becomes of requests, by their number: a fault, or for a statement what it gives. NULL as a new key is
    refused for a cause of its own. -/
structure Server where
  outcome : Nat → Except DatabaseError ResultSet
  nullRefusal : DatabaseError

/-- The step that a statement with its arguments is. -/
def Link.stepOf? (link : Link) (sql : String) : List Argument → Option LinkStep
  | [.parameter main, .parameter related] =>
    if sql = link.removeText then some (.remove main related)
    else if sql = link.addText then some (.add main related)
    else none
  | _ => none

namespace JoinTable

/-- The table once one more request came. -/
def next (table : JoinTable) : JoinTable :=
  { table with asked := table.asked + 1 }

/-- The table at the beginning of a transaction. -/
def begun (table : JoinTable) : JoinTable :=
  { table.next with saved := table.pairs }

/-- The table after a rollback. -/
def restored (table : JoinTable) : JoinTable :=
  { table.next with pairs := table.saved }

@[simp] theorem next_pairs (table : JoinTable) : table.next.pairs = table.pairs := rfl

@[simp] theorem next_saved (table : JoinTable) : table.next.saved = table.saved := rfl

@[simp] theorem begun_pairs (table : JoinTable) : table.begun.pairs = table.pairs := rfl

@[simp] theorem begun_saved (table : JoinTable) : table.begun.saved = table.pairs := rfl

@[simp] theorem restored_pairs (table : JoinTable) : table.restored.pairs = table.saved := rfl

end JoinTable

namespace Server
variable (server : Server) (link : Link)

/-- The answer to a statement. -/
def execute (sql : String) (arguments : List Argument) (table : JoinTable) :
    Except DatabaseError ResultSet × JoinTable :=
  match server.outcome table.asked, link.stepOf? sql arguments with
  | .error fault, _ => (.error fault, table.next)
  | .ok _, none => (.error .closed, table.next)
  | .ok result, some step =>
    match step.after? table.pairs with
    | some pairs => (.ok result, { table.next with pairs })
    | none => (.error server.nullRefusal, table.next)

/-- The answer to a mark of a transaction. A rollback restores the pairs whatever the answer is. -/
def mark (table : JoinTable) : TransactionMark → Except DatabaseError Unit × JoinTable
  | .start =>
    match server.outcome table.asked with
    | .ok _ => (.ok (), table.begun)
    | .error fault => (.error fault, table.next)
  | .commit => ((server.outcome table.asked).map fun _ => (), table.next)
  | .rollback => ((server.outcome table.asked).map fun _ => (), table.restored)

/-- The answer to an effect. Nothing but statements and marks reaches the table. -/
def answer : (e : Effect) → JoinTable → e.Answer × JoinTable
  | .ask (.execute sql arguments), table => server.execute link sql arguments table
  | .ask (.transaction mark), table => server.mark table mark
  | .ask (.describe _), table => (.error .closed, table.next)
  | .ask (.connect _ _), table => (.error .closed, table.next)
  | .snapshot, table => (.empty, table)
  | .publish _, table => ((), table)
  | .recall _, table => (none, table)
  | .remember _ _, table => ((), table)
  | .replaceCache _, table => ((), table)
  | .lock, table => ((), table)
  | .unlock, table => ((), table)

/-- The outcome of a change of links, and the table behind it. -/
def runChange (id : String) (change : LinkChange) (table : JoinTable) : Except Error Unit × JoinTable :=
  (link.change id change).run (server.answer link) table

end Server

/-! ## Steps -/

theorem Link.removeText_ne_addText (link : Link) : link.removeText ≠ link.addText := by
  have removes : "DELETE FROM ".toList <+: link.removeText.toList := by
    unfold Link.removeText
    simp only [String.append_assoc]
    rw [String.toList_append]
    exact List.prefix_append _ _
  have adds : "INSERT INTO ".toList <+: link.addText.toList := by
    unfold Link.addText
    simp only [String.append_assoc]
    rw [String.toList_append]
    exact List.prefix_append _ _
  intro same
  rw [same] at removes
  exact absurd (List.prefix_of_prefix_length_le removes adds (by decide)) (by decide)

theorem Link.stepOf?_step (link : Link) (step : LinkStep) :
    link.stepOf? (link.stepText step) (step.parameters.map .parameter) = some step := by
  cases step with
  | remove main related => simp [Link.stepOf?, Link.stepText, LinkStep.parameters]
  | add main related =>
    simp [Link.stepOf?, Link.stepText, LinkStep.parameters, Ne.symm link.removeText_ne_addText]

section
variable {α : Type} (server : Server) (link : Link)

/-- The statement of a step does what the step says, unless the request fails. -/
theorem run_execute_step (step : LinkStep) (table : JoinTable) :
    (Call.execute (link.stepText step) (step.parameters.map .parameter)).run (server.answer link) table =
      match server.outcome table.asked, step.after? table.pairs with
      | .error fault, _ => (.error (.database fault), table.next)
      | .ok result, some pairs => (.ok result, { table.next with pairs })
      | .ok _, none => (.error (.database server.nullRefusal), table.next) := by
  have answered : (Call.execute (link.stepText step) (step.parameters.map .parameter)).run
      (server.answer link) table =
      (Call.ofDatabase (server.execute link (link.stepText step) (step.parameters.map .parameter) table).1).run
        (server.answer link) (server.execute link (link.stepText step) (step.parameters.map .parameter) table).2 :=
    rfl
  rw [answered, Server.execute, link.stepOf?_step]
  cases server.outcome table.asked with
  | error fault => rfl
  | ok result =>
    simp only
    cases step.after? table.pairs <;> rfl

theorem runSteps_cons (step : LinkStep) (rest : List LinkStep) :
    link.runSteps (step :: rest) =
      Call.bind (Call.execute (link.stepText step) (step.parameters.map .parameter)) fun _ =>
        link.runSteps rest := rfl

/-- Steps leave what was saved as it was; where all of them succeed, the pairs are those after the steps. -/
theorem run_runSteps (steps : List LinkStep) (table : JoinTable) :
    ((link.runSteps steps).run (server.answer link) table).2.saved = table.saved ∧
      (((link.runSteps steps).run (server.answer link) table).1 = .ok () →
        LinkStep.afterAll? steps table.pairs =
          some ((link.runSteps steps).run (server.answer link) table).2.pairs) := by
  -- A step that succeeds hands the rest a table with the same saved pairs, so the invariant goes through.
  induction steps generalizing table with
  | nil => exact ⟨rfl, fun _ => rfl⟩
  | cons step rest ih =>
    rw [runSteps_cons, Call.run_bind, run_execute_step]
    cases server.outcome table.asked with
    | error fault => exact ⟨rfl, by simp⟩
    | ok result =>
      cases applied : step.after? table.pairs with
      | none => exact ⟨rfl, by simp⟩
      | some pairs =>
        obtain ⟨saved, ended⟩ := ih { table.next with pairs }
        refine ⟨saved, ?_⟩
        intro succeeded
        rw [LinkStep.afterAll?, List.foldlM_cons, applied]
        exact ended succeeded

/-- On a server without faults steps succeed when none of them adds NULL. -/
theorem runSteps_ok (healthy : ∀ n, ∃ result, server.outcome n = .ok result) (steps : List LinkStep)
    (table : JoinTable) (applied : (LinkStep.afterAll? steps table.pairs).isSome) :
    ((link.runSteps steps).run (server.answer link) table).1 = .ok () := by
  induction steps generalizing table with
  | nil => rfl
  | cons step rest ih =>
    rw [runSteps_cons, Call.run_bind, run_execute_step]
    obtain ⟨result, given⟩ := healthy table.asked
    rw [LinkStep.afterAll?, List.foldlM_cons] at applied
    rw [given]
    cases first : step.after? table.pairs with
    | none => simp [first] at applied
    | some pairs =>
      rw [first] at applied
      exact ih { table.next with pairs } applied

/-! ## Transactions -/

/-- A transaction keeps what its body did when the body and the commit succeed, and restores what was saved
    otherwise. -/
theorem run_transaction (body : Call α) (table : JoinTable) :
    (Call.transaction body).run (server.answer link) table =
      match server.outcome table.asked with
      | .error fault => (.error (.database fault), table.next)
      | .ok _ =>
        match body.run (server.answer link) table.begun with
        | (.error cause, ended) => (.error cause, ended.restored)
        | (.ok value, ended) =>
          match server.outcome ended.asked with
          | .ok _ => (.ok value, ended.next)
          | .error fault => (.error (.database fault), ended.next.restored) := by
  simp only [Call.transaction, Call.bind_eq, Call.effect, Call.bind_perform, Call.bind_done, Call.run,
    Server.answer, Server.mark]
  cases server.outcome table.asked with
  | error fault => rfl
  | ok result =>
    simp only [Call.ofDatabase, Call.bind_done, Call.run_bind, Call.run_attempt]
    cases body.run (server.answer link) table.begun with
    | mk outcome ended =>
      cases outcome with
      | error cause => rfl
      | ok value =>
        simp only [Call.run, Server.answer, Server.mark]
        cases server.outcome ended.asked with
        | ok result => rfl
        | error fault => rfl

end

/-! ## Plans -/

/-- The pairs of a list that have no NULL. -/
def textPairs (pairs : List (Sql.Parameter × Sql.Parameter)) : Set (String × String) :=
  { pair | (.text pair.1, .text pair.2) ∈ pairs }

theorem textPairs_cons (pair : Sql.Parameter × Sql.Parameter) (rest : List (Sql.Parameter × Sql.Parameter)) :
    textPairs (pair :: rest) = textPairs [pair] ∪ textPairs rest := by
  ext
  simp [textPairs]

theorem textPairs_text (main related : String) : textPairs [(.text main, .text related)] = {(main, related)} := by
  ext
  simp [textPairs, Prod.ext_iff]

theorem after?_remove (pair : Sql.Parameter × Sql.Parameter) (held : Set (String × String)) :
    LinkStep.after? (.remove pair.1 pair.2) held = some (held \ textPairs [pair]) := by
  obtain ⟨main, related⟩ := pair
  cases main with
  | null => simp [LinkStep.after?, textPairs]
  | text main =>
    cases related with
    | null => simp [LinkStep.after?, textPairs]
    | text related => rw [LinkStep.after?, textPairs_text]

theorem after?_add_eq_some_iff {pair : Sql.Parameter × Sql.Parameter} {held after : Set (String × String)} :
    LinkStep.after? (.add pair.1 pair.2) held = some after ↔
      (pair.1 ≠ .null ∧ pair.2 ≠ .null) ∧ after = held ∪ textPairs [pair] := by
  obtain ⟨main, related⟩ := pair
  cases main with
  | null => simp [LinkStep.after?]
  | text main =>
    cases related with
    | null => simp [LinkStep.after?]
    | text related => simp [LinkStep.after?, textPairs_text, eq_comm]

theorem afterAll?_remove (pairs : List (Sql.Parameter × Sql.Parameter)) (held : Set (String × String)) :
    LinkStep.afterAll? (pairs.map fun pair => .remove pair.1 pair.2) held = some (held \ textPairs pairs) := by
  induction pairs generalizing held with
  | nil => simp [LinkStep.afterAll?, textPairs]
  | cons pair rest ih =>
    rw [textPairs_cons pair rest, ← Set.sdiff_sdiff, List.map_cons, LinkStep.afterAll?, List.foldlM_cons,
      after?_remove]
    exact ih _

/-- Pairs can be added when none of them has NULL. -/
theorem afterAll?_add_eq_some_iff {pairs : List (Sql.Parameter × Sql.Parameter)}
    {held after : Set (String × String)} :
    LinkStep.afterAll? (pairs.map fun pair => .add pair.1 pair.2) held = some after ↔
      (∀ pair ∈ pairs, pair.1 ≠ .null ∧ pair.2 ≠ .null) ∧ after = held ∪ textPairs pairs := by
  induction pairs generalizing held with
  | nil => simp [LinkStep.afterAll?, textPairs, eq_comm]
  | cons pair rest ih =>
    rw [List.map_cons, LinkStep.afterAll?, List.foldlM_cons, Option.bind_eq_bind, Option.bind_eq_some_iff,
      textPairs_cons, ← Set.union_assoc, List.forall_mem_cons]
    constructor
    · rintro ⟨between, first, later⟩
      obtain ⟨noNull, rfl⟩ := after?_add_eq_some_iff.mp first
      obtain ⟨others, after_eq⟩ := ih.mp later
      exact ⟨⟨noNull, others⟩, after_eq⟩
    · rintro ⟨⟨noNull, others⟩, after_eq⟩
      exact ⟨_, after?_add_eq_some_iff.mpr ⟨noNull, rfl⟩, ih.mpr ⟨others, after_eq⟩⟩

namespace Link

theorem textPairs_pairs (link : Link) (id : String) (others : List Json) :
    textPairs (link.pairs (.text id) others) = link.between id others := by
  ext pair
  simp only [textPairs, between, pairs, Set.mem_ofPred_eq, List.mem_flatMap]
  refine exists_congr fun other => and_congr_right fun _ => ?_
  generalize Sql.Parameter.ofJson other link.relatedColumn.typeName = key
  obtain ⟨main, related⟩ := pair
  cases key with
  | null => cases link.relation.bidirectional <;> simp
  | text key =>
    cases link.relation.bidirectional <;> simp [eq_comm]

theorem ofJson_eq_null_iff {value : Json} {type : String} : Sql.Parameter.ofJson value type = .null ↔ value = .null := by
  cases value with
  | null => simp [Sql.Parameter.ofJson]
  | array items =>
    simp only [Sql.Parameter.ofJson]
    split <;> simp
  | _ => simp [Sql.Parameter.ofJson]

/-- No pair has NULL when no row is given by it. -/
theorem pairs_ne_null_iff {link : Link} {id : String} {others : List Json} :
    (∀ pair ∈ link.pairs (.text id) others, pair.1 ≠ .null ∧ pair.2 ≠ .null) ↔ .null ∉ others := by
  have key (other : Json) : (∀ pair ∈ link.pairs (.text id) [other], pair.1 ≠ .null ∧ pair.2 ≠ .null) ↔
      Sql.Parameter.ofJson other link.relatedColumn.typeName ≠ .null := by
    cases both : link.relation.bidirectional <;> simp [pairs, both]
  have parts : link.pairs (.text id) others = others.flatMap fun other => link.pairs (.text id) [other] := by
    simp [pairs]
  rw [parts, List.forall_mem_flatMap]
  constructor
  · intro noNull member
    exact (key _).mp (noNull _ member) (ofJson_eq_null_iff.mpr rfl)
  · intro absent other member
    refine (key other).mpr fun null => absent ?_
    rw [← ofJson_eq_null_iff.mp null]
    exact member

/-- A plan takes out the pairs to remove and then puts in those to add, unless one of them has NULL. -/
theorem afterAll?_plan {link : Link} {id : String} {change : LinkChange} {held after : Set (String × String)} :
    LinkStep.afterAll? (link.plan (.text id) change) held = some after ↔
      .null ∉ change.added ∧ after = (held \ link.between id change.deleted) ∪ link.between id change.added := by
  have removed := afterAll?_remove (link.pairs (.text id) change.deleted) held
  rw [LinkStep.afterAll?] at removed
  rw [plan, LinkStep.afterAll?, List.foldlM_append, removed, ← textPairs_pairs, ← textPairs_pairs,
    ← pairs_ne_null_iff]
  exact afterAll?_add_eq_some_iff

/-- The pairs between a row and others are symmetric when the relation goes both ways. -/
theorem between_symmetric {link : Link} (both : link.relation.bidirectional = true) {id : String}
    {others : List Json} {a b : String} (linked : (a, b) ∈ link.between id others) :
    (b, a) ∈ link.between id others := by
  obtain ⟨other, member, key, key_eq, forth | ⟨-, back⟩⟩ := linked
  · obtain ⟨rfl, rfl⟩ := Prod.mk.inj forth
    exact ⟨other, member, b, key_eq, .inr ⟨both, rfl⟩⟩
  · obtain ⟨rfl, rfl⟩ := Prod.mk.inj back
    exact ⟨other, member, a, key_eq, .inl rfl⟩

end Link

/-! ## Changes -/

section
variable (server : Server) (link : Link) (id : String) (change : LinkChange) (table : JoinTable)

/-- A change ends well with the pairs after its plan, or with a cause and the pairs as they were. -/
theorem runChange_cases :
    ((server.runChange link id change table).1 = .ok () ∧
        LinkStep.afterAll? (link.plan (.text id) change) table.pairs =
          some (server.runChange link id change table).2.pairs) ∨
      ((∃ cause, (server.runChange link id change table).1 = .error cause) ∧
        (server.runChange link id change table).2.pairs = table.pairs) := by
  rw [Server.runChange, Link.change, run_transaction]
  cases server.outcome table.asked with
  | error fault => exact .inr ⟨⟨_, rfl⟩, rfl⟩
  | ok result =>
    obtain ⟨saved, applied⟩ := run_runSteps server link (link.plan (.text id) change) table.begun
    cases run : (link.runSteps (link.plan (.text id) change)).run (server.answer link) table.begun with
    | mk outcome ended =>
      rw [run] at saved applied
      cases outcome with
      | error cause => exact .inr ⟨⟨_, rfl⟩, saved⟩
      | ok value =>
        cases committed : server.outcome ended.asked with
        | ok result => exact .inl ⟨by simp [committed], by simpa [committed] using applied rfl⟩
        | error fault => exact .inr ⟨⟨.database fault, by simp [committed]⟩, by simpa [committed] using saved⟩

theorem runChange_ok (healthy : ∀ n, ∃ result, server.outcome n = .ok result) (noNull : .null ∉ change.added) :
    (server.runChange link id change table).1 = .ok () := by
  have applied : (LinkStep.afterAll? (link.plan (.text id) change) table.begun.pairs).isSome := by
    rw [Link.afterAll?_plan.mpr ⟨noNull, rfl⟩]
    rfl
  have succeeded := runSteps_ok server link healthy (link.plan (.text id) change) table.begun applied
  obtain ⟨result, given⟩ := healthy table.asked
  rw [Server.runChange, Link.change, run_transaction, given]
  cases run : (link.runSteps (link.plan (.text id) change)).run (server.answer link) table.begun with
  | mk outcome ended =>
    rw [run] at succeeded
    obtain rfl : outcome = .ok () := succeeded
    obtain ⟨result, given⟩ := healthy ended.asked
    simp only [given]

variable {server link id change table}

theorem runChange_pairs (succeeded : (server.runChange link id change table).1 = .ok ()) :
    (server.runChange link id change table).2.pairs =
      (table.pairs \ link.between id change.deleted) ∪ link.between id change.added := by
  rcases runChange_cases server link id change table with ⟨-, planned⟩ | ⟨⟨cause, failed⟩, -⟩
  · exact (Link.afterAll?_plan.mp planned).2
  · rw [failed] at succeeded
    contradiction

theorem runChange_unchanged {cause : Error} (failed : (server.runChange link id change table).1 = .error cause) :
    (server.runChange link id change table).2.pairs = table.pairs := by
  rcases runChange_cases server link id change table with ⟨succeeded, -⟩ | ⟨-, unchanged⟩
  · rw [succeeded] at failed
    contradiction
  · exact unchanged

theorem runChange_null (null : .null ∈ change.added) :
    ∃ cause, (server.runChange link id change table).1 = .error cause := by
  rcases runChange_cases server link id change table with ⟨-, planned⟩ | ⟨failed, -⟩
  · exact absurd null (Link.afterAll?_plan.mp planned).1
  · exact failed

/-- A change that is made again, with whatever success, changes nothing more. -/
theorem runChange_again (succeeded : (server.runChange link id change table).1 = .ok ()) (again : Server) :
    (again.runChange link id change (server.runChange link id change table).2).2.pairs =
      (server.runChange link id change table).2.pairs := by
  rcases runChange_cases again link id change (server.runChange link id change table).2 with ⟨-, planned⟩ | ⟨-, unchanged⟩
  · -- What was put in is put in again, and what was taken out and not put in is out already.
    rw [(Link.afterAll?_plan.mp planned).2, runChange_pairs succeeded]
    ext pair
    simp only [Set.mem_union, Set.mem_sdiff]
    tauto
  · exact unchanged

theorem runChange_symmetric (both : link.relation.bidirectional = true)
    (symmetric : ∀ a b, (a, b) ∈ table.pairs → (b, a) ∈ table.pairs) (a b : String)
    (linked : (a, b) ∈ (server.runChange link id change table).2.pairs) :
    (b, a) ∈ (server.runChange link id change table).2.pairs := by
  rcases runChange_cases server link id change table with ⟨succeeded, -⟩ | ⟨-, unchanged⟩
  · rw [runChange_pairs succeeded] at linked ⊢
    rcases linked with ⟨held, kept⟩ | added
    · exact .inl ⟨symmetric a b held, fun removed => kept (Link.between_symmetric both removed)⟩
    · exact .inr (Link.between_symmetric both added)
  · rw [unchanged] at linked ⊢
    exact symmetric a b linked

end

/-- A change that succeeds takes out the pairs to remove and then puts in those to add; one that fails leaves the
    pairs as they were. It succeeds where no request fails and no new key is NULL, and fails for a new key that
    is. So what is both removed and added is linked in the end, a change made twice is a change made once, and
    a relation that goes both ways stays symmetric. -/
theorem change_membership (server : Server) (link : Link) (id : String) (change : LinkChange) (table : JoinTable) :
    let ended := server.runChange link id change table
    (ended.1 = .ok () →
      ended.2.pairs = (table.pairs \ link.between id change.deleted) ∪ link.between id change.added) ∧
    (∀ cause, ended.1 = .error cause → ended.2.pairs = table.pairs) ∧
    ((∀ n, ∃ result, server.outcome n = .ok result) → .null ∉ change.added → ended.1 = .ok ()) ∧
    (.null ∈ change.added → ∃ cause, ended.1 = .error cause) ∧
    (ended.1 = .ok () → ∀ pair ∈ link.between id change.deleted, pair ∈ link.between id change.added →
      pair ∈ ended.2.pairs) ∧
    (ended.1 = .ok () → ∀ again : Server, (again.runChange link id change ended.2).2.pairs = ended.2.pairs) ∧
    (link.relation.bidirectional = true → (∀ a b, (a, b) ∈ table.pairs → (b, a) ∈ table.pairs) →
      ∀ a b, (a, b) ∈ ended.2.pairs → (b, a) ∈ ended.2.pairs) := by
  intro ended
  refine ⟨runChange_pairs, fun cause => runChange_unchanged, ?_, runChange_null, ?_, runChange_again,
    runChange_symmetric⟩
  · intro healthy noNull
    exact runChange_ok server link id change table healthy noNull
  · intro succeeded pair _ added
    rw [runChange_pairs succeeded]
    exact .inr added

/-- Friends of people, by a join table of their own. -/
def friends : Link :=
  let person : Column := ⟨"person", 25, "text", "text", true, false, none, false, some ⟨"people", "name", "f1"⟩⟩
  let friend : Column := ⟨"friend", 25, "text", "text", true, false, none, false, some ⟨"people", "name", "f2"⟩⟩
  let name : Column := ⟨"name", 25, "text", "text", true, false, none, true, none⟩
  let people : Table := ⟨"people", "public", [name]⟩
  ⟨⟨"people", "people", "friends", true, none, none⟩, people, people,
    ⟨"friends", "public", [person, friend]⟩, person, friend, name⟩

/-- A server without faults. -/
def Server.healthy : Server :=
  ⟨fun _ => .ok ⟨[], [], 1⟩, .refused "null"⟩

/-- Ann's friends are changed: Bob is removed, twice, and added, and so are Ann herself and Eve. -/
def annsFriends : LinkChange :=
  ⟨[.string "bob", .string "ann", .string "eve"], [.string "bob", .null, .string "bob"]⟩

/-- Ann and Bob are friends. -/
def annAndBob : JoinTable :=
  ⟨{("ann", "bob"), ("bob", "ann")}, ∅, 0⟩

theorem change_membership_friends :
    (.null ∉ annsFriends.added ∧ friends.relation.bidirectional = true) ∧
      (Server.healthy.runChange friends "ann" annsFriends annAndBob).1 = .ok () ∧
      (Server.healthy.runChange friends "ann" annsFriends annAndBob).2.pairs =
        (annAndBob.pairs \ friends.between "ann" annsFriends.deleted) ∪ friends.between "ann" annsFriends.added ∧
      ("bob", "ann") ∈ (Server.healthy.runChange friends "ann" annsFriends annAndBob).2.pairs ∧
      ∀ a b, (a, b) ∈ (Server.healthy.runChange friends "ann" annsFriends annAndBob).2.pairs →
        (b, a) ∈ (Server.healthy.runChange friends "ann" annsFriends annAndBob).2.pairs := by
  obtain ⟨formula, -, succeeds, -, linked, -, symmetric⟩ :=
    change_membership Server.healthy friends "ann" annsFriends annAndBob
  have noNull : .null ∉ annsFriends.added := by simp [annsFriends]
  have succeeded := succeeds (fun n => ⟨_, rfl⟩) noNull
  have removed : ("bob", "ann") ∈ friends.between "ann" annsFriends.deleted :=
    ⟨.string "bob", by simp [annsFriends], "bob", rfl, .inr ⟨rfl, rfl⟩⟩
  have added : ("bob", "ann") ∈ friends.between "ann" annsFriends.added :=
    ⟨.string "bob", by simp [annsFriends], "bob", rfl, .inr ⟨rfl, rfl⟩⟩
  have held : ∀ a b, (a, b) ∈ annAndBob.pairs → (b, a) ∈ annAndBob.pairs := by
    intro a b
    simp only [annAndBob, Set.mem_insert_iff, Set.mem_singleton_iff, Prod.mk.injEq]
    tauto
  exact ⟨⟨noNull, rfl⟩, succeeded, formula succeeded, linked succeeded _ removed added, symmetric rfl held⟩

end TableGateway
