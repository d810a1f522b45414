import Mathlib
import TableGateway.Database.Preparation
import TableGateway.Http.Service
import TableGateway.Proofs.LinkTransaction

/-!
# Refused calls leave no trace

A call is refused by its own checks: a name that is no table's, a relation that does not resolve, a statement that
is not made, a request that makes no sense (`Error.isRefusal`). Up to such a refusal it only reads what is
published and cached (`Call.Guarded`), since behind its first other effect it fails for other causes at most
(`Call.Committed`). One lemma a building block says which of the two it is; so a refused call sends nothing and
leaves the world as it was (`refused_untouched`).
-/
namespace TableGateway

/-- The causes that a call is refused for by its own checks. -/
def Error.isRefusal : Error → Bool
  | .unknownTable _ | .link _ | .statement _ | .badRequest _ => true
  | .catalog _ | .invalid _ | .database _ => false

/-- Holds for effects that send nothing and change nothing. -/
def Effect.isReading : Effect → Bool
  | .snapshot | .recall _ => true
  | _ => false

/-- The calls that are offered: one for every kind of request, and the one that prepares a database. -/
inductive Offered (c : Configuration) : {α : Type} → Call α → Prop where
  | fixed (response : Http.Response) : Offered c (.done response)
  | readiness : Offered c Http.Answer.readiness
  | listRows (name : String) (query : Dict String) : Offered c (Http.Answer.listRows c name query)
  | insertRow (name : String) (body : Json) : Offered c (Http.Answer.insertRow name body)
  | updateRows (name : String) (query : Dict String) (body : Json) : Offered c (Http.Answer.updateRows name query body)
  | deleteRows (name : String) (query : Dict String) : Offered c (Http.Answer.deleteRows name query)
  | viewTable (name : String) (query : Dict String) : Offered c (Http.Answer.viewTable c name query)
  | listRelated (relation : Relation) (id : String) : Offered c (Http.Answer.listRelated relation id)
  | changeRelated (relation : Relation) (id : String) (change : LinkChange) :
      Offered c (Http.Answer.changeRelated relation id change)
  | listTables (reload : Bool) : Offered c (Http.Answer.listTables c reload)
  | showTable (name : String) : Offered c (Http.Answer.showTable name)
  | listSchemas : Offered c Http.Answer.listSchemas
  | showStatistics : Offered c (Http.Answer.showStatistics c)
  | showSettings (name : String) : Offered c (Http.Answer.showSettings name)
  | changeSettings (name : String) (body : Json) : Offered c (Http.Answer.changeSettings c name body)
  | runSql (request : RawSql) : Offered c (Http.Answer.runSql request)
  | prepareDatabase (url : String) : Offered c (Call.prepareDatabase url)

namespace Call
variable {α β σ : Type}

/-! ## Outcomes, whatever is answered -/

/-- Holds when every outcome of a call is right, whatever its effects are answered. -/
def Leads (right : Except Error α → Prop) : Call α → Prop
  | done value => right (.ok value)
  | fail cause => right (.error cause)
  | perform _ resume => ∀ answer, Leads right (resume answer)

theorem Leads.bind {call : Call α} {next : α → Call β} {right : Except Error α → Prop}
    {right' : Except Error β → Prop} (leads : call.Leads right)
    (goes_on : ∀ value, right (.ok value) → (next value).Leads right')
    (fails : ∀ cause, right (.error cause) → right' (.error cause)) : (bind call next).Leads right' := by
  induction call with
  | done value => exact goes_on value leads
  | fail cause => exact fails cause leads
  | perform e resume ih => exact fun answer => ih answer (leads answer)

theorem Leads.attempt {call : Call α} {right : Except Error α → Prop} (leads : call.Leads right) :
    (attempt call).Leads fun outcome => ∃ given, outcome = .ok given ∧ right given := by
  induction call with
  | done value => exact ⟨_, rfl, leads⟩
  | fail cause => exact ⟨_, rfl, leads⟩
  | perform e resume ih => exact fun answer => ih answer (leads answer)

theorem Leads.run {call : Call α} {right : Except Error α → Prop} (leads : call.Leads right)
    (answer : (e : Effect) → σ → e.Answer × σ) (s : σ) : right (call.run answer s).1 := by
  induction call generalizing s with
  | done value => exact leads
  | fail cause => exact leads
  | perform e resume ih => exact ih _ (leads _) _

/-- Holds for outcomes that are no refusal. -/
def Unrefused (outcome : Except Error α) : Prop :=
  ∀ cause, outcome = .error cause → cause.isRefusal = false

/-- Holds for calls that are not refused any more. -/
def Committed (call : Call α) : Prop :=
  call.Leads Unrefused

@[simp] theorem committed_done (value : α) : Committed (done value) :=
  fun _ failed => nomatch failed

theorem committed_fail {cause : Error} (other : cause.isRefusal = false) : Committed (fail cause : Call α) := by
  rintro _ ⟨⟩
  exact other

theorem Committed.bind {call : Call α} {next : α → Call β} (committed : call.Committed)
    (goes_on : ∀ value, (next value).Committed) : (bind call next).Committed := by
  refine Leads.bind committed (fun value _ => goes_on value) ?_
  rintro cause unrefused _ ⟨⟩
  exact unrefused cause rfl

theorem committed_effect (e : Effect) : Committed (effect e) :=
  fun answer => committed_done answer

theorem committed_ofExcept {outcome : Except Error α} (unrefused : Unrefused outcome) :
    Committed (ofExcept outcome) := by
  cases outcome with
  | ok value => exact committed_done value
  | error cause => exact committed_fail (unrefused cause rfl)

theorem committed_attempt {call : Call α} {next : Except Error α → Call β} (committed : call.Committed)
    (goes_on : ∀ outcome, Unrefused outcome → (next outcome).Committed) :
    (Call.bind (attempt call) next).Committed := by
  refine Leads.bind (Leads.attempt committed) ?_ ?_
  · rintro outcome ⟨_, ⟨⟩, unrefused⟩
    exact goes_on outcome unrefused
  · rintro cause ⟨_, ⟨⟩, _⟩

/-! ## What is asked of the database -/

theorem committed_ofDatabase (given : Except DatabaseError α) : Committed (ofDatabase given) := by
  cases given with
  | ok value => exact committed_done value
  | error cause => exact committed_fail rfl

theorem committed_ofCatalog (given : Except CatalogError α) : Committed (ofCatalog given) := by
  cases given with
  | ok value => exact committed_done value
  | error cause => exact committed_fail rfl

theorem committed_execute (sql : String) (arguments : List Argument) : Committed (execute sql arguments) :=
  (committed_effect _).bind committed_ofDatabase

theorem committed_describe (sql : String) : Committed (describe sql) :=
  (committed_effect _).bind committed_ofDatabase

theorem committed_transaction {body : Call α} (committed : body.Committed) : Committed (transaction body) := by
  refine (committed_effect _).bind fun started => (committed_ofDatabase started).bind fun _ => ?_
  refine committed_attempt committed fun outcome unrefused => ?_
  cases outcome with
  | ok value =>
    refine (committed_effect _).bind fun ended => ?_
    cases ended with
    | ok _ => exact committed_done value
    | error cause => exact (committed_effect _).bind fun _ => committed_fail rfl
  | error cause => exact (committed_effect _).bind fun _ => committed_fail (unrefused cause rfl)

theorem committed_locked {body : Call α} (committed : body.Committed) : Committed (locked body) :=
  (committed_effect _).bind fun _ => committed_attempt committed fun _ unrefused =>
    (committed_effect _).bind fun _ => committed_ofExcept unrefused

theorem committed_queryCatalog (sql : String) (arguments : List Argument) (read : Row → Except DatabaseError α) :
    Committed (queryCatalog sql arguments read) :=
  (committed_effect _).bind fun _ => committed_ofCatalog _

theorem committed_loadTables (schema : String) (included : List String) :
    Committed (loadTables schema included) := by
  have names : Committed (tableNames schema included) := by
    cases included with
    | nil => exact committed_queryCatalog _ _ _
    | cons name rest => exact committed_done _
  exact names.bind fun _ => (committed_queryCatalog _ _ _).bind fun _ => committed_ofCatalog _

theorem committed_reloadTables (schema : String) (included : List String) :
    Committed (reloadTables schema included) :=
  (committed_loadTables schema included).bind fun _ => (committed_effect _).bind fun _ => committed_effect _

theorem committed_statistics (schema : String) : Committed (statistics schema) :=
  (committed_execute _ _).bind fun _ => committed_ofDatabase _

theorem committed_castInferred (sql : String) (count : Nat) : Committed (castInferred sql count) := by
  unfold castInferred
  split
  · exact committed_done sql
  · refine (committed_describe sql).bind fun described => ?_
    split
    · have named (numbers : List Nat) : Committed (typeNames numbers) :=
        (committed_execute _ _).bind fun _ => committed_ofDatabase _
      exact (named _).bind fun _ => committed_done _
    · exact committed_done sql

theorem committed_fetch (s : Sql.Statement) : Committed s.fetch :=
  (committed_castInferred _ _).bind fun _ => (committed_execute _ _).bind fun _ =>
    (committed_ofDatabase _).bind fun _ => committed_done _

theorem committed_change (link : Link) (id : String) (change : LinkChange) : Committed (link.change id change) := by
  refine committed_transaction ?_
  induction link.plan (.text id) change with
  | nil => exact committed_done ()
  | cons step rest ih => exact (committed_execute _ _).bind fun _ => ih

theorem committed_orInvalid (given : Except DecodeError TableSettings) : Committed (TableSettings.orInvalid given) := by
  cases given with
  | ok settings => exact committed_done settings
  | error cause => exact committed_fail rfl

theorem committed_cachedSettings (table : Table) : Committed (cachedSettings table) :=
  (committed_effect _).bind fun _ => committed_done _

theorem committed_mergeSettings (schema table : String) (document : Json) :
    Committed (mergeSettings schema table document) :=
  (committed_execute _ _).bind fun _ => committed_ofDatabase _

/-! ## Checks come first -/

/-- Holds for calls that do nothing but read. -/
def Reads : Call α → Prop
  | done _ => True
  | fail _ => True
  | perform e resume => e.isReading = true ∧ ∀ answer, Reads (resume answer)

/-- Holds for calls that are refused, if at all, behind nothing but reading. -/
def Guarded : Call α → Prop
  | done _ => True
  | fail _ => True
  | perform e resume => if e.isReading then ∀ answer, Guarded (resume answer) else ∀ answer, Committed (resume answer)

theorem Committed.guarded {call : Call α} (committed : call.Committed) : call.Guarded := by
  induction call with
  | done value => trivial
  | fail cause => trivial
  | perform e resume ih =>
    unfold Guarded
    split
    · exact fun answer => ih answer (committed answer)
    · exact committed

theorem Reads.bind {call : Call α} {next : α → Call β} (reads : call.Reads)
    (goes_on : ∀ value, (next value).Guarded) : (bind call next).Guarded := by
  induction call with
  | done value => exact goes_on value
  | fail cause => trivial
  | perform e resume ih =>
    rw [bind_perform, Guarded, if_pos reads.1]
    exact fun answer => ih answer (reads.2 answer)

theorem reads_tables : Reads tables :=
  ⟨rfl, fun _ => trivial⟩

theorem reads_table (name : String) : Reads (table name) := by
  refine ⟨rfl, fun published => ?_⟩
  dsimp only [bind_done]
  split <;> trivial

theorem reads_settings (table : Table) : Reads (settings table) :=
  ⟨rfl, fun _ => trivial⟩

theorem reads_link (relation : Relation) : Reads (link relation) := by
  refine ⟨rfl, fun published => ?_⟩
  dsimp only [bind_done]
  split <;> trivial

theorem reads_payloadOf (body : Json) : Reads (Http.payloadOf body) := by
  unfold Http.payloadOf
  split <;> trivial

theorem reads_ofStatement (made : Except StatementError Sql.Statement) : Reads (ofStatement made) := by
  cases made <;> trivial

theorem Guarded.bind {call : Call α} {next : α → Call β} (guarded : call.Guarded)
    (goes_on : ∀ value, (next value).Committed) : (bind call next).Guarded := by
  induction call with
  | done value => exact (goes_on value).guarded
  | fail cause => trivial
  | perform e resume ih =>
    rw [bind_perform]
    unfold Guarded at guarded ⊢
    split
    · rename_i reads
      rw [if_pos reads] at guarded
      exact fun answer => ih answer (guarded answer)
    · rename_i acts
      rw [if_neg acts] at guarded
      exact fun answer => Committed.bind (guarded answer) goes_on

/-- A refused call sent nothing, where reading leaves everything as it is. -/
theorem Guarded.untouched {call : Call α} (guarded : call.Guarded) {answer : (e : Effect) → σ → e.Answer × σ}
    (reading : ∀ e s, e.isReading = true → (answer e s).2 = s) {s : σ} {cause : Error}
    (refused : (call.run answer s).1 = .error cause) (refusal : cause.isRefusal = true) :
    (call.run answer s).2 = s ∧ call.exchanges answer s = [] := by
  induction call generalizing s with
  | done value => exact ⟨rfl, rfl⟩
  | fail cause => exact ⟨rfl, rfl⟩
  | perform e resume ih =>
    unfold Guarded at guarded
    split at guarded
    · rename_i reads
      have silent : e.exchanges (answer e s).1 = [] := by
        cases e with
        | ask request => cases reads
        | _ => rfl
      have same : (answer e s).2 = s := reading e s reads
      rw [run, same] at refused ⊢
      rw [exchanges_perform, silent, same, List.nil_append]
      exact ih _ (guarded _) refused
    · -- Behind any other effect no such cause is left.
      have unrefused := (guarded (answer e s).1).run answer (answer e s).2 cause refused
      rw [unrefused] at refusal
      cases refusal

end Call

/-! ## Calls that are offered -/

theorem guarded_fetch (made : Except StatementError Sql.Statement) :
    (Call.bind (Call.ofStatement made) Sql.Statement.fetch).Guarded :=
  (Call.reads_ofStatement made).bind fun s => (Call.committed_fetch s).guarded

theorem committed_view (t : Table) (listing : Listing) (settings : TableSettings) :
    (t.view listing settings).Committed :=
  (Call.committed_fetch _).bind fun _ => Call.committed_done _

theorem guarded_updateSettings (schema : String) (table : Table) (change : Json) :
    (Call.updateSettings schema table change).Guarded := by
  unfold Call.updateSettings
  split
  · exact (Call.committed_locked <| (Call.committed_cachedSettings table).bind fun _ =>
      (Call.committed_orInvalid _).bind fun _ => (Call.committed_mergeSettings _ _ _).bind fun _ =>
        (Call.committed_orInvalid _).bind fun _ => (Call.committed_effect _).bind fun _ =>
          Call.committed_done _).guarded
  · trivial

theorem guarded_run (request : RawSql) : request.run.Guarded := by
  unfold RawSql.run
  simp only [Call.bind_eq]
  split
  · trivial
  · refine ((Call.committed_castInferred _ _).bind fun text => (Call.committed_execute _ _).bind fun set => ?_).guarded
    unfold RawSql.withColumns
    split
    · refine Call.committed_attempt (Call.committed_describe text) fun outcome _ => ?_
      cases outcome <;> exact Call.committed_done _
    · exact Call.committed_done _

theorem guarded_prepareDatabase (url : String) : (Call.prepareDatabase url).Guarded := by
  unfold Call.prepareDatabase
  split
  · trivial
  · split
    · trivial
    · split
      · refine ((Call.committed_effect _).bind fun _ => (Call.committed_ofDatabase _).bind fun _ =>
          (Call.committed_execute _ _).bind fun _ => (Call.committed_ofDatabase _).bind fun found => ?_).guarded
        split
        · exact Call.committed_done ()
        · exact (Call.committed_execute _ _).bind fun _ => Call.committed_done ()
      · trivial

/-- Every call that is offered is refused, if at all, behind nothing but reading. -/
theorem Offered.guarded {c : Configuration} {α : Type} {call : Call α} (offered : Offered c call) : call.Guarded := by
  have done {β γ : Type} (next : β → γ) (value : β) : (Call.done (next value)).Committed := Call.committed_done _
  cases offered with
  | fixed response => trivial
  | readiness =>
    refine Call.reads_tables.bind fun _ => Call.Committed.guarded ?_
    refine Call.committed_attempt (Call.committed_execute _ _) fun outcome _ => ?_
    cases outcome <;> exact Call.committed_done _
  | listRows name query =>
    exact (Call.reads_table name).bind fun _ => (Call.committed_fetch _).guarded.bind (done _)
  | insertRow name body =>
    exact (Call.reads_table name).bind fun _ => (Call.reads_payloadOf body).bind fun _ =>
      (guarded_fetch _).bind (done _)
  | updateRows name query body =>
    exact (Call.reads_table name).bind fun _ => (Call.reads_payloadOf body).bind fun _ =>
      (guarded_fetch _).bind (done _)
  | deleteRows name query => exact (Call.reads_table name).bind fun _ => (guarded_fetch _).bind (done _)
  | viewTable name query =>
    exact (Call.reads_table name).bind fun t => (Call.reads_settings t).bind fun _ =>
      (committed_view t _ _).guarded.bind (done _)
  | listRelated relation id =>
    exact (Call.reads_link relation).bind fun _ => (Call.committed_fetch _).guarded.bind (done _)
  | changeRelated relation id change =>
    exact (Call.reads_link relation).bind fun link => (Call.committed_change link id change).guarded.bind fun _ =>
      (Call.committed_fetch _).bind (done _)
  | listTables reload =>
    cases reload with
    | true => exact (Call.committed_reloadTables _ _).guarded.bind (done _)
    | false => exact Call.reads_tables.bind fun _ => trivial
  | showTable name => exact (Call.reads_table name).bind fun _ => trivial
  | listSchemas => exact (Call.committed_queryCatalog _ _ _).guarded.bind (done _)
  | showStatistics => exact (Call.committed_statistics _).guarded.bind (done _)
  | showSettings name => exact (Call.reads_table name).bind fun t => (Call.reads_settings t).bind fun _ => trivial
  | changeSettings name body =>
    exact (Call.reads_table name).bind fun t => (guarded_updateSettings _ t body).bind (done _)
  | runSql request => exact (guarded_run request).bind (done _)
  | prepareDatabase url => exact guarded_prepareDatabase url

theorem value_of_bind {ε α β : Type} {given : Except ε α} {next : α → Except ε β} {result : β}
    (passed : (given >>= next) = .ok result) : ∃ value, given = .ok value ∧ next value = .ok result := by
  cases given with
  | ok value => exact ⟨value, rfl, passed⟩
  | error cause => cases passed

/-- A request that is accepted becomes one of the calls that are offered. -/
theorem offered_of_accept {c : Configuration} {r : Http.Request} {call : Call Http.Response}
    (accepted : Http.accept c r = .ok call) : Offered c call := by
  unfold Http.accept at accepted
  split at accepted
  · cases accepted
  · obtain ⟨action, -, accepted⟩ := value_of_bind accepted
    cases action with
    | showHealth | showVersion =>
      cases accepted
      exact .fixed _
    | showReadiness =>
      cases accepted
      exact .readiness
    | listRows table =>
      obtain ⟨name, -, ⟨⟩⟩ := value_of_bind accepted
      exact .listRows name r.query
    | insertRow table =>
      obtain ⟨name, -, accepted⟩ := value_of_bind accepted
      obtain ⟨body, -, ⟨⟩⟩ := value_of_bind accepted
      exact .insertRow name body
    | updateRows table =>
      obtain ⟨name, -, accepted⟩ := value_of_bind accepted
      obtain ⟨body, -, ⟨⟩⟩ := value_of_bind accepted
      exact .updateRows name r.query body
    | deleteRows table =>
      obtain ⟨name, -, ⟨⟩⟩ := value_of_bind accepted
      exact .deleteRows name r.query
    | viewTable table =>
      obtain ⟨name, -, ⟨⟩⟩ := value_of_bind accepted
      exact .viewTable name r.query
    | listRelated table id =>
      obtain ⟨name, -, accepted⟩ := value_of_bind accepted
      obtain ⟨id, -, accepted⟩ := value_of_bind accepted
      obtain ⟨relation, -, ⟨⟩⟩ := value_of_bind accepted
      exact .listRelated relation id
    | changeRelated table id =>
      obtain ⟨name, -, accepted⟩ := value_of_bind accepted
      obtain ⟨id, -, accepted⟩ := value_of_bind accepted
      obtain ⟨relation, -, accepted⟩ := value_of_bind accepted
      obtain ⟨change, -, ⟨⟩⟩ := value_of_bind accepted
      exact .changeRelated relation id change
    | listTables =>
      obtain ⟨reload, -, ⟨⟩⟩ := value_of_bind accepted
      exact .listTables reload
    | showTable table =>
      obtain ⟨name, -, ⟨⟩⟩ := value_of_bind accepted
      exact .showTable name
    | listSchemas =>
      cases accepted
      exact .listSchemas
    | showStatistics =>
      cases accepted
      exact .showStatistics
    | showSettings table =>
      obtain ⟨name, -, ⟨⟩⟩ := value_of_bind accepted
      exact .showSettings name
    | changeSettings table =>
      obtain ⟨name, -, accepted⟩ := value_of_bind accepted
      obtain ⟨body, -, ⟨⟩⟩ := value_of_bind accepted
      exact .changeSettings name body
    | runSql =>
      obtain ⟨request, -, ⟨⟩⟩ := value_of_bind accepted
      exact .runSql request

/-- A call that is refused leaves no trace, whatever the tables, the cached settings and the replies to come are:
    it sends nothing, takes no reply, and the world is as it was. So does a request that becomes such a call, and
    it is answered with the cause. -/
theorem refused_untouched (c : Configuration) (w : World) {cause : Error} (refusal : cause.isRefusal = true) :
    (∀ {α : Type} (call : Call α), Offered c call → (w.run call).1 = .error cause →
      call.exchanges World.answer w = [] ∧ (w.run call).2 = w) ∧
    ∀ (r : Http.Request) (call : Call Http.Response), Http.accept c r = .ok call → (w.run call).1 = .error cause →
      (Http.serve c r).exchanges World.answer w = [] ∧
      w.run (Http.serve c r) = (.ok ((Http.Response.ofError cause).forMethod r.method), w) := by
  have reading : ∀ e (w : World), e.isReading = true → (World.answer e w).2 = w := by
    intro e w reads
    cases e <;> first | rfl | cases reads
  have untouched {α : Type} (call : Call α) (offered : Offered c call) (refused : (w.run call).1 = .error cause) :
      call.exchanges World.answer w = [] ∧ (w.run call).2 = w :=
    (offered.guarded.untouched reading refused refusal).symm
  refine ⟨untouched, ?_⟩
  intro r call accepted refused
  obtain ⟨silent, same⟩ := untouched call (offered_of_accept accepted) refused
  have answered : w.run call = (.error cause, w) := Prod.ext refused same
  have served : Http.serve c r = Call.bind (Call.attempt call) fun outcome =>
      .done ((Http.Response.ofOutcome outcome).forMethod r.method) := by
    rw [Http.serve, accepted]
    rfl
  rw [World.run] at answered ⊢
  rw [served, Call.exchanges_bind, Call.exchanges_attempt, silent, Call.run_bind, Call.run_attempt, answered]
  exact ⟨rfl, rfl⟩

/-- A request to delete all people, with a blank for a filter. -/
def blankDeletion : Http.Request :=
  ⟨.delete, "/api/data/people?filters=%20", [], ""⟩

theorem refused_untouched_people :
    let c := Configuration.ofUrl "postgres://localhost/app"
    let cause := Error.statement (.unrestricted "people")
    let call := Http.Answer.deleteRows "people" (.ofList [("filters", " ")])
    (cause.isRefusal = true ∧ (servedFriends.run call).1 = .error cause ∧ Http.accept c blankDeletion = .ok call) ∧
    (call.exchanges World.answer servedFriends = [] ∧ (servedFriends.run call).2 = servedFriends) ∧
    (Http.serve c blankDeletion).exchanges World.answer servedFriends = [] ∧
    servedFriends.run (Http.serve c blankDeletion) = (.ok (.ofError cause), servedFriends) := by
  intro c cause call
  have refused : (servedFriends.run call).1 = .error cause := rfl
  have accepted : Http.accept c blankDeletion = .ok call := by with_unfolding_all rfl
  have refusal : cause.isRefusal = true := rfl
  obtain ⟨untouched, served⟩ := refused_untouched c servedFriends refusal
  exact ⟨⟨refusal, refused, accepted⟩, untouched call (.deleteRows _ _) refused, served _ call accepted refused⟩

end TableGateway
