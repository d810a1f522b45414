import Mathlib
import TableGateway.Catalog.Loading
import TableGateway.Proofs.CatalogAssembly
import TableGateway.Proofs.Exchanges
import TableGateway.Proofs.Interleaving

/-!
# Reloads of the catalog

Any number of callers reload the tables and look at them at the same time. A reload asks its questions, publishes
the tables that the answers describe, and reads what is published (`Reloading`); so it publishes nothing unless
it met no error, and what it publishes is the whole of what its own answers say (`Loads`). Whoever looks at the
published tables gets the initial ones or those of one reload (`reload_atomic`).
-/
namespace TableGateway

/-! ## Callers -/

/-- What a caller wants: a reload of the tables, all tables, or one of them. -/
inductive CatalogTask where
  | reload
  | list
  | lookup (name : String)

/-- What a caller gets. -/
inductive Seen where
  | all (tables : Tables)
  | one (table : Table)

def CatalogTask.call (schema : String) (included : List String) : CatalogTask → Call Seen
  | .reload => .bind (.reloadTables schema included) fun tables => .done (.all tables)
  | .list => .bind .tables fun tables => .done (.all tables)
  | .lookup name => .bind (.table name) fun table => .done (.one table)

/-- What a look at the tables gives. -/
def CatalogTask.gives : CatalogTask → Tables → Call Seen
  | .lookup name, seen =>
    match seen.get? name with
    | some table => .done (.one table)
    | none => .fail (.unknownTable name)
  | _, seen => .done (.all seen)

/-- The published tables change by being published alone; the database may answer anything. -/
def publishing : Environment Tables
  | .snapshot, published, seen, left => seen = published ∧ left = published
  | .publish tables, _, _, left => left = tables
  | _, published, _, left => left = published

/-! ## Reloads -/

def baseTablesAsked (schema : String) : Database.Request :=
  .execute baseTablesText [.parameter (.text schema)]

def columnsAsked (schema : String) (names : List String) : Database.Request :=
  .execute columnsText [.parameter (.text schema), .texts names]

def asked (request : Database.Request) (reply : request.Answer) : Act :=
  ⟨.ask request, reply⟩

/-- Holds for acts that are all questions to the database. -/
def AsksOnly (acts : List Act) : Prop :=
  ∀ act ∈ acts, ∃ request, act.effect = .ask request

/-- The questions of a reload that met no error, with their answers, and the tables that come out. -/
inductive Loads (schema : String) (included : List String) : List Act → Tables → Prop where
  | included (some_included : included ≠ []) {set : ResultSet} {rows : List CatalogRow} {tables : Tables}
      (read : set.allRows.mapM CatalogRow.ofRow = .ok rows)
      (assembled : Tables.assemble schema included rows = .ok tables) :
      Loads schema included [asked (columnsAsked schema included) (.ok set)] tables
  | listed (none_included : included = []) {listed set : ResultSet} {names : List String} {rows : List CatalogRow}
      {tables : Tables} (named : listed.allRows.mapM Call.firstText = .ok names)
      (read : set.allRows.mapM CatalogRow.ofRow = .ok rows)
      (assembled : Tables.assemble schema names rows = .ok tables) :
      Loads schema included
        [asked (baseTablesAsked schema) (.ok listed), asked (columnsAsked schema names) (.ok set)] tables

/-- What a reload may have done, and what it has left to do: it asks, and may fail; or it has loaded tables and
    published them, and then reads what is published. -/
inductive Reloading (schema : String) (included : List String) : List Act → Call Seen → Prop where
  | asking {done : List Act} {rest : Call Seen} (asks : AsksOnly done) (unfinished : ∀ seen, rest ≠ .done seen) :
      Reloading schema included done rest
  | published {questions : List Act} {tables : Tables} (loads : Loads schema included questions tables) :
      Reloading schema included (questions ++ [⟨.publish tables, ()⟩])
        (.perform .snapshot fun seen => .done (.all seen))
  | ended {questions : List Act} {tables : Tables} (loads : Loads schema included questions tables) (seen : Tables) :
      Reloading schema included (questions ++ [⟨.publish tables, ()⟩, ⟨.snapshot, seen⟩]) (.done (.all seen))

section
variable {schema : String} {included names : List String} {done : List Act} {rest : Call Seen}

/-- The tables of names as a reply describes them. -/
def loadedIn (schema : String) (names : List String) (reply : Except DatabaseError ResultSet) :
    Except CatalogError Tables :=
  ((reply.bind fun set => set.allRows.mapM CatalogRow.ofRow).mapError .query).bind (Tables.assemble schema names)

/-- What a reload does once it knows the names. -/
def describing (schema : String) (names : List String) : Call Seen :=
  .perform (.ask (columnsAsked schema names)) fun reply =>
    match loadedIn schema names reply with
    | .error cause => .fail (.catalog cause)
    | .ok tables => .perform (.publish tables) fun _ => .perform .snapshot fun seen => .done (.all seen)

theorem reload_call_eq (schema : String) (included : List String) :
    CatalogTask.reload.call schema included = .bind (.tableNames schema included) (describing schema) := by
  simp only [CatalogTask.call, Call.reloadTables, Call.loadTables, Call.bind_eq, Call.bind_assoc]
  refine congrArg (Call.bind _) (funext fun names => ?_)
  refine congrArg (Call.perform (.ask (columnsAsked schema names))) (funext fun reply => ?_)
  unfold loadedIn
  simp only [Call.bind_done]
  cases (reply.bind fun set => set.allRows.mapM CatalogRow.ofRow).mapError CatalogError.query with
  | error cause => rfl
  | ok rows =>
    simp only [Call.ofCatalog, Call.bind_done, Except.bind]
    cases Tables.assemble schema names rows <;> rfl

theorem loadedIn_eq_ok {reply : Except DatabaseError ResultSet} {tables : Tables}
    (loaded : loadedIn schema names reply = .ok tables) :
    ∃ set rows, reply = .ok set ∧ set.allRows.mapM CatalogRow.ofRow = .ok rows ∧
      Tables.assemble schema names rows = .ok tables := by
  cases reply with
  | error cause => cases loaded
  | ok set =>
    cases read : set.allRows.mapM CatalogRow.ofRow with
    | error cause => simp [loadedIn, Except.bind, read, Except.mapError] at loaded
    | ok rows => exact ⟨set, rows, rfl, read, by simpa [loadedIn, Except.bind, read, Except.mapError] using loaded⟩

theorem asksOnly_asked (request : Database.Request) (reply : request.Answer) : AsksOnly [asked request reply] :=
  fun _ member => ⟨request, congrArg Act.effect (List.mem_singleton.mp member)⟩

theorem AsksOnly.concat {acts : List Act} (asks : AsksOnly acts) (request : Database.Request) (reply : request.Answer) :
    AsksOnly (acts ++ [asked request reply]) := by
  intro act member
  obtain member | member := List.mem_append.mp member
  · exact asks act member
  · exact asksOnly_asked request reply act member

/-- Behind its first questions a reload asks for the columns, and publishes what it loaded. -/
theorem describing_reloading (first : List Act) (asks : AsksOnly first)
    (loads : ∀ set rows tables, set.allRows.mapM CatalogRow.ofRow = .ok rows →
      Tables.assemble schema names rows = .ok tables →
        Loads schema included (first ++ [asked (columnsAsked schema names) (.ok set)]) tables)
    (leaves : (describing schema names).Leaves done rest) : Reloading schema included (first ++ done) rest := by
  obtain ⟨rfl, rfl⟩ | ⟨reply, later, rfl, goes_on⟩ := Call.leaves_perform_iff.mp leaves
  · rw [List.append_nil]
    exact .asking asks nofun
  have asks' := asks.concat (columnsAsked schema names) reply
  have parts : first ++ ⟨.ask (columnsAsked schema names), reply⟩ :: later =
      first ++ [asked (columnsAsked schema names) reply] ++ later := by simp [asked]
  rw [parts]
  -- By how far the reload has come behind the reply: it failed, or publishes, or has published, or has ended.
  cases loaded : loadedIn schema names reply with
  | error cause =>
    rw [loaded] at goes_on
    obtain ⟨rfl, rfl⟩ := Call.leaves_fail_iff.mp goes_on
    rw [List.append_nil]
    exact .asking asks' nofun
  | ok tables =>
    rw [loaded] at goes_on
    obtain ⟨set, rows, rfl, read, assembled⟩ := loadedIn_eq_ok loaded
    have loaded := loads set rows tables read assembled
    obtain ⟨rfl, rfl⟩ | ⟨_, later, rfl, reads⟩ := Call.leaves_perform_iff.mp goes_on
    · rw [List.append_nil]
      exact .asking asks' nofun
    obtain ⟨rfl, rfl⟩ | ⟨seen, later, rfl, ends⟩ := Call.leaves_perform_iff.mp reads
    · exact .published loaded
    · obtain ⟨rfl, rfl⟩ := Call.leaves_done_iff.mp ends
      exact .ended loaded seen

theorem reload_reloading (leaves : (CatalogTask.reload.call schema included).Leaves done rest) :
    Reloading schema included done rest := by
  rw [reload_call_eq] at leaves
  cases included with
  | cons name others =>
    exact describing_reloading [] nofun (fun _ _ _ => .included (List.cons_ne_nil _ _)) leaves
  | nil =>
    obtain ⟨rfl, rfl⟩ | ⟨reply, later, rfl, goes_on⟩ := Call.leaves_perform_iff.mp leaves
    · exact .asking nofun nofun
    have asks : AsksOnly [asked (baseTablesAsked schema) reply] := asksOnly_asked (baseTablesAsked schema) reply
    change Reloading schema [] ([asked (baseTablesAsked schema) reply] ++ later) rest
    change (Call.bind (Call.ofCatalog ((reply.bind fun set => set.allRows.mapM Call.firstText).mapError .query))
      (describing schema)).Leaves later rest at goes_on
    cases reply with
    | error cause =>
      obtain ⟨rfl, rfl⟩ := Call.leaves_fail_iff.mp goes_on
      exact .asking asks nofun
    | ok listed =>
      rw [Except.bind] at goes_on
      cases named : listed.allRows.mapM Call.firstText with
      | error cause =>
        rw [named] at goes_on
        obtain ⟨rfl, rfl⟩ := Call.leaves_fail_iff.mp goes_on
        exact .asking asks nofun
      | ok names =>
        rw [named] at goes_on
        exact describing_reloading _ asks (fun _ _ _ => .listed rfl named) goes_on

end

/-! ## Runs -/

/-- What is published behind an effect. -/
def Effect.behind (published : Tables) : Effect → Tables
  | .publish tables => tables
  | _ => published

section
variable {ι : Type}

/-- What is published behind a run. -/
def lastPublished (initial : Tables) (trace : List (Event ι)) : Tables :=
  trace.foldl (fun published event => event.effect.behind published) initial

theorem lastPublished_concat (initial : Tables) (trace : List (Event ι)) (event : Event ι) :
    lastPublished initial (trace ++ [event]) = event.effect.behind (lastPublished initial trace) := by
  simp [lastPublished]

/-- What is published is what was there at first, unless somebody published it. -/
theorem lastPublished_cases (initial : Tables) (trace : List (Event ι)) :
    lastPublished initial trace = initial ∨ ∃ i, ⟨i, .publish (lastPublished initial trace), ()⟩ ∈ trace := by
  induction trace using List.reverseRecOn with
  | nil => exact .inl rfl
  | append_singleton trace event ih =>
    obtain ⟨i, e, answer⟩ := event
    rw [lastPublished_concat]
    cases e with
    | publish tables => exact .inr ⟨i, List.mem_append_right _ (.head _)⟩
    | _ => exact ih.imp_right fun ⟨i, member⟩ => ⟨i, List.mem_append_left _ member⟩

/-- Leaving out who publishes nothing does not change what is published. -/
theorem lastPublished_filter {initial : Tables} {trace : List (Event ι)} {keep : Event ι → Bool}
    (silent : ∀ event ∈ trace, keep event = false → ∀ published, event.effect.behind published = published) :
    lastPublished initial (trace.filter keep) = lastPublished initial trace := by
  induction trace using List.reverseRecOn with
  | nil => rfl
  | append_singleton trace event ih =>
    have same := ih fun event member => silent event (List.mem_append_left _ member)
    rw [List.filter_append, List.filter_singleton, lastPublished_concat]
    cases kept : keep event with
    | true => rw [cond_true, lastPublished_concat, same]
    | false =>
      rw [cond_false, List.append_nil, same, silent event (List.mem_append_right _ (.head _)) kept]

theorem publishing_behind {e : Effect} {published left : Tables} {answer : e.Answer}
    (answers : publishing e published answer left) : left = e.behind published := by
  cases e with
  | snapshot => exact answers.2
  | _ => exact answers

variable [DecidableEq ι] {α : Type} {start pool : Pool ι Tables α} {trace : List (Event ι)}

theorem shared_eq (run : Pool.Run publishing start trace pool) :
    pool.shared = lastPublished start.shared trace := by
  induction run with
  | start => rfl
  | step run turn ih =>
    cases turn with
    | turn next answers =>
      rw [lastPublished_concat, ← ih]
      exact publishing_behind answers

/-- Whoever looks sees what is published at that moment. -/
theorem seen_eq (run : Pool.Run publishing start trace pool) {before after : List (Event ι)} {i : ι} {seen : Tables}
    (parts : trace = before ++ ⟨i, .snapshot, seen⟩ :: after) : seen = lastPublished start.shared before := by
  induction run generalizing after with
  | start => simp at parts
  | step run turn ih =>
    obtain ⟨rfl, rfl, rfl⟩ | ⟨after, -, earlier⟩ := concat_parts parts
    · cases turn with
      | turn next answers =>
        rw [← shared_eq run]
        exact answers.1
    · exact ih earlier

end

/-! ## Reloads among others -/

section
variable {ι : Type} [DecidableEq ι]

/-- Holds for tables that one caller loaded and published without meeting an error. -/
structure LoadedBy (schema : String) (included : List String) (trace : List (Event ι)) (pool : Pool ι Tables Seen)
    (i : ι) (tables : Tables) : Prop where
  loaded : ∃ questions, Loads schema included questions tables ∧
    questions ++ [⟨.publish tables, ()⟩] <+: actsOf i trace
  unfailed : ∀ cause, pool.calls i ≠ .fail cause

/-- Holds for tables that somebody saw, or that are published now. -/
def Observed (trace : List (Event ι)) (pool : Pool ι Tables Seen) (tables : Tables) : Prop :=
  tables = pool.shared ∨ ∃ i, ⟨i, .snapshot, tables⟩ ∈ trace

theorem Loads.asks {schema : String} {included : List String} {questions : List Act} {tables : Tables}
    (loads : Loads schema included questions tables) : AsksOnly questions := by
  cases loads with
  | included => exact asksOnly_asked _ _
  | listed => exact (asksOnly_asked _ _).concat _ _

theorem Loads.wellFormed {schema : String} {included : List String} {questions : List Act} {tables : Tables}
    (loads : Loads schema included questions tables) : WellFormed schema tables ∧ TextByType tables := by
  cases loads with
  | included _ _ assembled => exact Tables.assemble_wellFormed assembled
  | listed _ _ _ assembled => exact Tables.assemble_wellFormed assembled

theorem look_call_eq (schema : String) (included : List String) {task : CatalogTask} (looks : task ≠ .reload) :
    task.call schema included = .perform .snapshot task.gives := by
  cases task with
  | reload => exact absurd rfl looks
  | list => rfl
  | lookup name =>
    refine congrArg (Call.perform .snapshot) (funext fun seen => ?_)
    simp only [CatalogTask.gives, Call.bind_done]
    cases seen.get? name <;> rfl

theorem leaves_gives {task : CatalogTask} {seen : Tables} {acts : List Act} {rest : Call Seen}
    (leaves : (task.gives seen).Leaves acts rest) : acts = [] ∧ rest = task.gives seen := by
  cases task with
  | lookup name =>
    simp only [CatalogTask.gives] at leaves ⊢
    cases found : seen.get? name with
    | none =>
      rw [found] at leaves
      exact Call.leaves_fail_iff.mp leaves
    | some table =>
      rw [found] at leaves
      exact Call.leaves_done_iff.mp leaves
  | _ => exact Call.leaves_done_iff.mp leaves

section
variable {schema : String} {included : List String} {tasks : ι → CatalogTask} {initial : Tables}
  {trace : List (Event ι)} {pool : Pool ι Tables Seen} {i : ι}
  (run : Pool.Run publishing ⟨initial, fun i => (tasks i).call schema included⟩ trace pool)
include run

theorem reloading (task : tasks i = .reload) : Reloading schema included (actsOf i trace) (pool.calls i) := by
  have leaves := run.leaves i
  simp only [task] at leaves
  exact reload_reloading leaves

theorem looking (looks : tasks i ≠ .reload) :
    (actsOf i trace = [] ∧ pool.calls i = (tasks i).call schema included) ∨
      ∃ seen, actsOf i trace = [⟨.snapshot, seen⟩] ∧ pool.calls i = (tasks i).gives seen := by
  have leaves := run.leaves i
  simp only [look_call_eq schema included looks] at leaves ⊢
  obtain unread | ⟨seen, later, acts, goes_on⟩ := Call.leaves_perform_iff.mp leaves
  · exact .inl unread
  · obtain ⟨rfl, rest⟩ := leaves_gives goes_on
    exact .inr ⟨seen, acts, rest⟩

/-- What is published was loaded by the reload that published it. -/
theorem loadedBy_of_published {tables : Tables} (member : ⟨i, .publish tables, ()⟩ ∈ trace) :
    tasks i = .reload ∧ LoadedBy schema included trace pool i tables := by
  have act : ⟨.publish tables, ()⟩ ∈ actsOf i trace := mem_actsOf_iff.mpr member
  have task : tasks i = .reload := by
    -- Who only looks has one act at most, and that is no publication.
    by_contra looks
    obtain ⟨acts, -⟩ | ⟨seen, acts, -⟩ := looking run looks <;> simp [acts] at act
  refine ⟨task, ?_⟩
  have unasked {questions : List Act} (asks : AsksOnly questions) : ⟨.publish tables, ()⟩ ∉ questions := by
    intro member
    obtain ⟨request, same⟩ := asks _ member
    cases same
  have reloading := reloading run task
  generalize acts_eq : actsOf i trace = acts at reloading act
  generalize rest_eq : pool.calls i = rest at reloading
  cases reloading with
  | asking asks unfinished => exact absurd act (unasked asks)
  | published loads =>
    obtain act | act := List.mem_append.mp act
    · exact absurd act (unasked loads.asks)
    · cases List.mem_singleton.mp act
      exact ⟨⟨_, loads, acts_eq ▸ List.prefix_rfl⟩, fun cause failed => by cases rest_eq.symm.trans failed⟩
  | ended loads seen =>
    obtain act | act := List.mem_append.mp act
    · exact absurd act (unasked loads.asks)
    · have first := (List.mem_pair.mp act).resolve_right fun other => by cases other
      cases first
      exact ⟨⟨_, loads, acts_eq ▸ by simp⟩, fun cause failed => by cases rest_eq.symm.trans failed⟩

theorem seen_of_ended {seen : Tables} (ended : pool.calls i = .done (.all seen)) :
    ⟨.snapshot, seen⟩ ∈ actsOf i trace := by
  by_cases task : tasks i = .reload
  · have reloading := reloading run task
    generalize actsOf i trace = acts at reloading ⊢
    rw [ended] at reloading
    cases reloading with
    | asking _ unfinished => exact absurd rfl (unfinished _)
    | ended => simp
  · obtain ⟨-, rest⟩ | ⟨looked, acts, rest⟩ := looking run task
    · rw [look_call_eq schema included task, ended] at rest
      cases rest
    · rw [ended] at rest
      cases given : tasks i with
      | lookup name =>
        simp only [given, CatalogTask.gives] at rest
        split at rest <;> cases rest
      | _ =>
        rw [given] at rest
        cases rest
        simp [acts]

/-- A reload that failed has done nothing but ask. -/
theorem asks_of_failed {cause : Error} (task : tasks i = .reload) (failed : pool.calls i = .fail cause) :
    AsksOnly (actsOf i trace) := by
  have reloading := reloading run task
  generalize actsOf i trace = acts at reloading ⊢
  rw [failed] at reloading
  cases reloading with
  | asking asks _ => exact asks

end

/-- Whoever looks at the tables while others reload them sees what is published at that moment: the initial tables,
    or what one reload has loaded, as a whole and without an error. A reload that fails publishes nothing. What is
    seen is well formed if the initial tables are. -/
theorem reload_atomic (schema : String) (included : List String) (tasks : ι → CatalogTask) {initial : Tables}
    {trace : List (Event ι)} {pool : Pool ι Tables Seen}
    (run : Pool.Run publishing ⟨initial, fun i => (tasks i).call schema included⟩ trace pool) :
    (∀ before i seen after, trace = before ++ ⟨i, .snapshot, seen⟩ :: after → seen = lastPublished initial before) ∧
    pool.shared = lastPublished initial trace ∧
    (∀ tables, Observed trace pool tables →
      tables = initial ∨ ∃ i, tasks i = .reload ∧ LoadedBy schema included trace pool i tables) ∧
    (∀ i, tasks i ≠ .reload → pool.calls i = (tasks i).call schema included ∨
      ∃ seen, Observed trace pool seen ∧ pool.calls i = (tasks i).gives seen) ∧
    (∀ i seen, pool.calls i = .done (.all seen) → Observed trace pool seen) ∧
    (∀ i cause, tasks i = .reload → pool.calls i = .fail cause →
      (∀ tables, ⟨i, .publish tables, ()⟩ ∉ trace) ∧
        lastPublished initial (trace.filter fun event => event.caller ≠ i) = pool.shared) ∧
    (∀ i tables, LoadedBy schema included trace pool i tables → WellFormed schema tables ∧ TextByType tables) ∧
    (WellFormed schema initial → ∀ tables, Observed trace pool tables → WellFormed schema tables) := by
  have shared := shared_eq run
  have loaded (before : List (Event ι)) (earlier : before ⊆ trace) :
      lastPublished initial before = initial ∨
        ∃ i, tasks i = .reload ∧ LoadedBy schema included trace pool i (lastPublished initial before) :=
    (lastPublished_cases initial before).imp_right fun ⟨i, member⟩ => ⟨i, loadedBy_of_published run (earlier member)⟩
  have observed (tables : Tables) (observed : Observed trace pool tables) :
      tables = initial ∨ ∃ i, tasks i = .reload ∧ LoadedBy schema included trace pool i tables := by
    obtain rfl | ⟨i, member⟩ := observed
    · rw [shared]
      exact loaded trace (List.Subset.refl trace)
    · obtain ⟨before, after, parts⟩ := List.append_of_mem member
      rw [seen_eq run parts]
      exact loaded before (by simp [parts])
  have wellFormed (i : ι) (tables : Tables) (loadedBy : LoadedBy schema included trace pool i tables) :
      WellFormed schema tables ∧ TextByType tables := by
    obtain ⟨questions, loads, -⟩ := loadedBy.loaded
    exact loads.wellFormed
  refine ⟨fun _ _ _ _ parts => seen_eq run parts, shared, observed, ?_, fun i seen ended => ?_, ?_, wellFormed, ?_⟩
  · intro i looks
    obtain ⟨-, rest⟩ | ⟨seen, acts, rest⟩ := looking run looks
    · exact .inl rest
    · have act : ⟨.snapshot, seen⟩ ∈ actsOf i trace := by simp [acts]
      exact .inr ⟨seen, .inr ⟨i, mem_actsOf_iff.mp act⟩, rest⟩
  · exact .inr ⟨i, mem_actsOf_iff.mp (seen_of_ended run ended)⟩
  · intro i cause task failed
    have asks := asks_of_failed run task failed
    refine ⟨fun tables member => ?_, ?_⟩
    · obtain ⟨request, same⟩ := asks _ (mem_actsOf_iff.mpr member)
      cases same
    · rw [shared]
      refine lastPublished_filter fun event member dropped published => ?_
      obtain ⟨j, e, answer⟩ := event
      obtain rfl : j = i := by simpa using dropped
      obtain ⟨request, rfl⟩ := asks _ (mem_actsOf_iff.mpr member)
      rfl
  · intro initially tables seen
    obtain rfl | ⟨i, -, loadedBy⟩ := observed tables seen
    · exact initially
    · exact (wellFormed i tables loadedBy).1

end

/-! A caller reloads the tables, another one reloads them in vain, and a third one looks one up in between. -/

inductive Trio where
  | reloader
  | failing
  | reader
  deriving DecidableEq

/-- Three calls, one a caller. -/
def trioCalls (reloader failing reader : Call Seen) : Trio → Call Seen
  | .reloader => reloader
  | .failing => failing
  | .reader => reader

def trioTasks : Trio → CatalogTask
  | .reader => .lookup "a"
  | _ => .reload

/-- A reply that describes one column of text, `id` of the table `a`. -/
def oneColumn : ResultSet :=
  ⟨[⟨"table_name", "TEXT"⟩, ⟨"column_name", "TEXT"⟩, ⟨"oid", "INT4"⟩, ⟨"reg_type", "TEXT"⟩, ⟨"udt_name", "TEXT"⟩,
      ⟨"is_nullable", "BOOL"⟩, ⟨"column_default", "TEXT"⟩, ⟨"is_primary_key", "BOOL"⟩, ⟨"foreign_key_info", "JSON"⟩],
    [[some [97], some [105, 100], some [0, 0, 0, 25], some [116], some [116], some [0], none, some [1], none]], 1⟩

def oneTable : Tables :=
  .ofList [("a", ⟨"a", "public", [⟨"id", 25, "t", "t", true, false, none, true, none⟩]⟩)]

def trioTrace : List (Event Trio) :=
  [⟨.reloader, .ask (columnsAsked "public" ["a"]), .ok oneColumn⟩,
    ⟨.failing, .ask (columnsAsked "public" ["a"]), .error .closed⟩, ⟨.reader, .snapshot, .empty⟩,
    ⟨.reloader, .publish oneTable, ()⟩, ⟨.reloader, .snapshot, oneTable⟩]

def trioStart : Pool Trio Tables Seen :=
  ⟨.empty, fun i => (trioTasks i).call "public" ["a"]⟩

/-- Where the run ends: the reader has found nothing, and the table is published. -/
def trioEnd : Pool Trio Tables Seen :=
  ⟨oneTable, trioCalls (.done (.all oneTable)) (.fail (.catalog (.query .closed))) (.fail (.unknownTable "a"))⟩

/-- The first turns of the run lead to published tables and calls. -/
def TrioReaches (turns : Nat) (published : Tables) (reloader failing reader : Call Seen) : Prop :=
  Pool.Run publishing trioStart (trioTrace.take turns) ⟨published, trioCalls reloader failing reader⟩

theorem trio_run : Pool.Run publishing trioStart trioTrace trioEnd := by
  have reloader_moves {reloader reloader' failing reader : Call Seen} :
      ∀ j, j ≠ .reloader → trioCalls reloader' failing reader j = trioCalls reloader failing reader j := by
    rintro (_ | _ | _) other <;> first | rfl | exact absurd rfl other
  have failing_moves {reloader failing failing' reader : Call Seen} :
      ∀ j, j ≠ .failing → trioCalls reloader failing' reader j = trioCalls reloader failing reader j := by
    rintro (_ | _ | _) other <;> first | rfl | exact absurd rfl other
  have reader_moves {reloader failing reader reader' : Call Seen} :
      ∀ j, j ≠ .reader → trioCalls reloader failing reader' j = trioCalls reloader failing reader j := by
    rintro (_ | _ | _) other <;> first | rfl | exact absurd rfl other
  have loaded : loadedIn "public" ["a"] (.ok oneColumn) = .ok oneTable := by with_unfolding_all rfl
  have started : TrioReaches 0 .empty (describing "public" ["a"]) (describing "public" ["a"])
      (.perform .snapshot (CatalogTask.lookup "a").gives) := by
    have calls : (fun i => (trioTasks i).call "public" ["a"]) = trioCalls (describing "public" ["a"])
        (describing "public" ["a"]) (.perform .snapshot (CatalogTask.lookup "a").gives) := by
      funext i
      cases i with
      | reader => exact look_call_eq "public" ["a"] nofun
      | _ => exact reload_call_eq "public" ["a"]
    rw [TrioReaches, trioStart, calls]
    exact .start
  have described : TrioReaches 1 .empty
      (.perform (.publish oneTable) fun _ => .perform .snapshot fun seen => .done (.all seen))
      (describing "public" ["a"]) (.perform .snapshot (CatalogTask.lookup "a").gives) := by
    refine started.turn rfl rfl ?_ reloader_moves
    simp only [trioCalls, loaded]
  have failed : TrioReaches 2 .empty
      (.perform (.publish oneTable) fun _ => .perform .snapshot fun seen => .done (.all seen))
      (.fail (.catalog (.query .closed))) (.perform .snapshot (CatalogTask.lookup "a").gives) :=
    described.turn rfl rfl rfl failing_moves
  have looked : TrioReaches 3 .empty
      (.perform (.publish oneTable) fun _ => .perform .snapshot fun seen => .done (.all seen))
      (.fail (.catalog (.query .closed))) (.fail (.unknownTable "a")) :=
    failed.turn rfl ⟨rfl, rfl⟩ rfl reader_moves
  have published : TrioReaches 4 oneTable (.perform .snapshot fun seen => .done (.all seen))
      (.fail (.catalog (.query .closed))) (.fail (.unknownTable "a")) :=
    looked.turn rfl rfl rfl reloader_moves
  exact published.turn rfl ⟨rfl, rfl⟩ rfl reloader_moves

theorem reload_atomic_trio :
    (Pool.Run publishing trioStart trioTrace trioEnd ∧ WellFormed "public" .empty) ∧
    trioEnd.shared = lastPublished .empty trioTrace ∧
    (∃ i, trioTasks i = .reload ∧ LoadedBy "public" ["a"] trioTrace trioEnd i oneTable) ∧
    (∃ seen, Observed trioTrace trioEnd seen ∧ trioEnd.calls .reader = (CatalogTask.lookup "a").gives seen) ∧
    (∀ tables, ⟨.failing, .publish tables, ()⟩ ∉ trioTrace) ∧ WellFormed "public" oneTable := by
  have initially : WellFormed "public" .empty := ⟨nofun, nofun, nofun⟩
  obtain ⟨-, shared, observed, looks, -, fails, -, wellFormed⟩ := reload_atomic "public" ["a"] trioTasks trio_run
  have published : Observed trioTrace trioEnd oneTable := .inl rfl
  have replaced : oneTable ≠ .empty := nofun
  refine ⟨⟨trio_run, initially⟩, shared, (observed _ published).resolve_left replaced, ?_, ?_,
    wellFormed initially _ published⟩
  · obtain waiting | looked := looks .reader nofun
    · cases waiting
    · exact looked
  · exact (fails .failing _ rfl rfl).1

end TableGateway
