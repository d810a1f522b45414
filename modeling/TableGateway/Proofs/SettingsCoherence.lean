import Mathlib
import TableGateway.Proofs.SettingsSteps

/-!
# Coherence of the settings

Any number of callers read and change settings at the same time. One update at a time is between its lock and its
unlock (`Holding`), and all others wait or have ended; so the documents are the loaded ones with the changes of the
updates that succeeded, in the order in which they took the lock. An update cannot succeed without the lock
(`locked_of_succeeded`), and takes it once (`nodup_lockOrder`), so no change that counts is missing. The cache holds
the settings of every document, but for the moment between a merge and the caching of what came out
(`Stage.pending`). What a read sees was the document at some moment of the run (`settings_coherent`).
-/
namespace TableGateway

/-- What a caller wants: the settings of a table, or a change of them. -/
inductive SettingsTask where
  | read (table : Table)
  | update (table : Table) (change : Json)

namespace SettingsTask

def call (schema : String) : SettingsTask → Call TableSettings
  | .read table => .settings table
  | .update table change => .updateSettings schema table change

/-- The name and the members that a task asks to merge. -/
def change? : SettingsTask → Option (String × List (String × Json))
  | .update table (.object members) => some (table.name, members)
  | _ => none

end SettingsTask

def Call.succeeded {α : Type} : Call α → Bool
  | .done _ => true
  | _ => false

variable {ι : Type}

def Event.deed (event : Event ι) : Deed :=
  deedOf event.effect event.answer

/-- The callers that took the lock, in the order in which they did. -/
def lockOrder (trace : List (Event ι)) : List ι :=
  (trace.filter fun event => event.deed = .enters).map Event.caller

/-- The changes of those callers of an order that have succeeded. -/
def applied (tasks : ι → SettingsTask) (calls : ι → Call TableSettings) (order : List ι) :
    List (String × List (String × Json)) :=
  (order.filter fun i => (calls i).succeeded).filterMap fun i => (tasks i).change?

def mergeAll (documents : Dict (Dict Json)) (changes : List (String × List (String × Json))) : Dict (Dict Json) :=
  changes.foldl (fun documents change => mergeDocument documents change.1 change.2) documents

/-- A document, if there is one, with the changes of its name laid over it. -/
def laidAll (name : String) (document : Option (Dict Json)) (changes : List (String × List (String × Json))) :
    Option (Dict Json) :=
  (changes.filter fun change => change.1 = name).foldl
    (fun document change => some ((document.getD .empty).overlay change.2)) document

theorem get?_mergeAll (name : String) (documents : Dict (Dict Json))
    (changes : List (String × List (String × Json))) :
    (mergeAll documents changes).get? name = laidAll name (documents.get? name) changes := by
  induction changes generalizing documents with
  | nil => rfl
  | cons change rest ih =>
    have next : mergeAll documents (change :: rest) = mergeAll (mergeDocument documents change.1 change.2) rest := rfl
    rw [next, ih, mergeDocument, Dict.get?_insert, laidAll, laidAll, List.filter_cons]
    by_cases same : name = change.1
    · simp [same, laidDocument]
    · simp [same, Ne.symm same]

/-! ## Stages between lock and unlock -/

namespace Stage

/-- Holds between lock and unlock. -/
def isInside : Stage → Bool
  | .waiting | .ended _ => false
  | _ => true

/-- Holds once the merge is done, unless the update fails. -/
def hasWritten : Stage → Bool
  | .caching _ | .releasing (.ok _) | .ended (.ok _) => true
  | _ => false

/-- The cache as it will be once a merge that is done is cached. -/
def pending (stage : Stage) (name : String) (cache : Dict TableSettings) : Dict TableSettings :=
  match stage with
  | .caching settings => cache.insert name settings
  | _ => cache

/-- What holds at a stage of an update whose lock found the documents `before`. -/
structure Sound (table : Table) (members : List (String × Json)) (before : Dict (Dict Json)) (stage : Stage)
    (w : SettingsState) : Prop where
  locked : w.isLocked = stage.isInside
  documents : w.documents = if stage.hasWritten then mergeDocument before table.name members else before
  coherent : Coherent (stage.pending table.name w.cache) w.documents
  accepted : stage = .writing → ∃ merged, ((w.cache.get? table.name).getD .blank).merge members = .ok merged

end Stage

section
variable {table : Table} {members : List (String × Json)} {stage stage' : Stage} {w w' : SettingsState} {deed : Deed}
  {before : Dict (Dict Json)}

/-- What an update merges holds settings, since the check before the merge was about the same settings. -/
theorem Stage.Sound.holds (sound : Stage.Sound table members before .writing w) :
    ∃ settings, TableSettings.ofJson (.ofDict (laidDocument w.documents table.name members)) = .ok settings := by
  obtain ⟨merged, fits⟩ := sound.accepted rfl
  exact ⟨merged, sound.coherent.holds_of_fits fits⟩

/-- Every step of an update leads from a sound stage to a sound one. -/
theorem Moves.sound (moves : Moves table members stage w deed stage' w') (sound : stage.Sound table members before w) :
    stage'.Sound table members before w' := by
  have ⟨locked, documents, coherent, accepted⟩ := sound
  cases moves with
  | enter free => exact ⟨rfl, documents, coherent, by simp⟩
  | accept fits => exact ⟨locked, documents, coherent, fun _ => ⟨_, fits⟩⟩
  | reject unfit => exact ⟨locked, documents, coherent, by simp⟩
  | refuse cause => exact ⟨locked, documents, coherent, by simp⟩
  | write holds =>
    exact ⟨locked, congrArg (mergeDocument · table.name members) documents, coherent.insert _ holds, by simp⟩
  | spoil holds_none =>
    obtain ⟨settings, holds⟩ := sound.holds
    simp [holds] at holds_none
  | cache settings => exact ⟨locked, documents, coherent, by simp⟩
  | leave outcome => cases outcome <;> exact ⟨rfl, documents, coherent, by simp⟩

/-- A step from inside does not take the lock, and leads on inside or to the end. -/
theorem Moves.ahead (moves : Moves table members stage w deed stage' w') (inside : stage.isInside = true) :
    deed ≠ .enters ∧ (stage'.isInside = true ∨ ∃ outcome, stage' = .ended outcome) := by
  cases moves <;> simp_all [Stage.isInside]

/-- Once an update has written, it goes on to success. -/
theorem Moves.hasWritten (moves : Moves table members stage w deed stage' w')
    (sound : stage.Sound table members before w) (wrote : stage.hasWritten = true ∨ deed = .writes) :
    stage'.hasWritten = true := by
  cases moves with
  | spoil holds_none =>
    obtain ⟨settings, holds⟩ := sound.holds
    simp [holds] at holds_none
  | leave outcome => cases outcome <;> simp_all [Stage.hasWritten]
  | _ => simp_all [Stage.hasWritten]

theorem Moves.cached (moves : Moves table members stage w deed stage' w')
    (sound : stage.Sound table members before w) : w'.cache = w.cache ∨ Coherent w'.cache w'.documents := by
  cases moves with
  | cache settings => exact .inr sound.coherent
  | _ => exact .inl rfl

end

/-! ## Many callers -/

/-- What a call outside of lock and unlock can be. -/
inductive Outside (schema : String) : SettingsTask → Call TableSettings → Prop where
  | reading (table : Table) : Outside schema (.read table) (.settings table)
  | waiting (table : Table) (members : List (String × Json)) :
      Outside schema (.update table (.object members)) (Stage.waiting.call schema table members)
  | ended (task : SettingsTask) (outcome : Except Error TableSettings) : Outside schema task (.ofExcept outcome)

theorem outside_call (schema : String) (task : SettingsTask) : Outside schema task (task.call schema) := by
  cases task with
  | read table => exact .reading table
  | update table change =>
    cases change with
    | object members =>
      rw [SettingsTask.call, updateSettings_eq]
      exact .waiting table members
    | _ => exact .ended _ (.error (.badRequest "settings must be a JSON object"))

/-- From outside, a read gives what the cache has, and an update takes the lock, which is free. -/
theorem Outside.turn {schema : String} {task : SettingsTask} {call : Call TableSettings} {e : Effect}
    {resume : e.Answer → Call TableSettings} {answer : e.Answer} {w w' : SettingsState}
    (outside : Outside schema task call) (next : call = .perform e resume)
    (answers : SettingsState.may schema e w answer w') :
    (∃ table, task = .read table ∧ deedOf e answer = .other ∧ w' = w ∧
      resume answer = .done (((w.cache.get? table.name).getD .blank).withDefaults table)) ∨
    ∃ table members, task = .update table (.object members) ∧ deedOf e answer = .enters ∧ w.isLocked = false ∧
      w' = { w with isLocked := true } ∧ resume answer = Stage.checking.call schema table members := by
  cases outside with
  | reading table =>
    cases next
    obtain ⟨rfl, rfl⟩ := answers
    exact .inl ⟨table, rfl, rfl, rfl, rfl⟩
  | waiting table members =>
    cases next
    obtain ⟨free, rfl⟩ := answers
    exact .inr ⟨table, members, rfl, rfl, free, rfl, rfl⟩
  | ended task outcome => cases outcome <;> cases next

/-! ## What every turn keeps -/

def Ended (call : Call TableSettings) : Prop :=
  ∃ outcome, call = .ofExcept outcome

theorem not_ended_of_perform {call : Call TableSettings} {e : Effect} {resume : e.Answer → Call TableSettings}
    (next : call = .perform e resume) : ¬ Ended call := by
  rintro ⟨outcome, ended⟩
  rw [next] at ended
  cases outcome <;> cases ended

/-- Holds when every caller whose merge is done has the property. -/
def EveryWriter (trace : List (Event ι)) (P : ι → Prop) : Prop :=
  ∀ event ∈ trace, event.deed = .writes → P event.caller

/-- Where a run stands while no update holds the lock. -/
structure Free (schema : String) (tasks : ι → SettingsTask) (documents : Dict (Dict Json)) (trace : List (Event ι))
    (w : SettingsState) (calls : ι → Call TableSettings) : Prop where
  outside : ∀ i, Outside schema (tasks i) (calls i)
  ended : ∀ i ∈ lockOrder trace, Ended (calls i)
  unlocked : w.isLocked = false
  merged : w.documents = mergeAll documents (applied tasks calls (lockOrder trace))
  coherent : Coherent w.cache w.documents
  wrote : EveryWriter trace fun i => (calls i).succeeded = true

/-- Where a run stands while an update holds the lock, or has just given it back. -/
structure Holding (schema : String) (tasks : ι → SettingsTask) (documents : Dict (Dict Json)) (trace : List (Event ι))
    (w : SettingsState) (calls : ι → Call TableSettings) (holder : ι) (table : Table)
    (members : List (String × Json)) (stage : Stage) (earlier : List ι) : Prop where
  task : tasks holder = .update table (.object members)
  at_stage : calls holder = stage.call schema table members
  order : lockOrder trace = earlier ++ [holder]
  outside : ∀ i, i ≠ holder → Outside schema (tasks i) (calls i)
  ended : ∀ i ∈ earlier, Ended (calls i)
  sound : stage.Sound table members (mergeAll documents (applied tasks calls earlier)) w
  wrote : EveryWriter trace fun i => (calls i).succeeded = true ∨ i = holder ∧ stage.hasWritten = true

/-- Where a run stands: one update at most is between lock and unlock. -/
def Standing (schema : String) (tasks : ι → SettingsTask) (documents : Dict (Dict Json)) (trace : List (Event ι))
    (w : SettingsState) (calls : ι → Call TableSettings) : Prop :=
  Free schema tasks documents trace w calls ∨
    ∃ holder table members stage earlier,
      Holding schema tasks documents trace w calls holder table members stage earlier ∧ stage.isInside = true

theorem lockOrder_concat (trace : List (Event ι)) (i : ι) (e : Effect) (answer : e.Answer) :
    lockOrder (trace ++ [⟨i, e, answer⟩]) =
      if deedOf e answer = .enters then lockOrder trace ++ [i] else lockOrder trace := by
  by_cases enters : deedOf e answer = .enters <;> simp [lockOrder, Event.deed, enters]

/-- The order lists the callers that did a lock. -/
theorem mem_lockOrder_iff {i : ι} {trace : List (Event ι)} : i ∈ lockOrder trace ↔ ⟨i, .lock, ()⟩ ∈ trace := by
  simp only [lockOrder, List.mem_map, List.mem_filter, decide_eq_true_eq]
  constructor
  · rintro ⟨⟨j, e, answer⟩, ⟨member, enters⟩, rfl⟩
    obtain rfl : e = .lock := lock_of_enters enters
    exact member
  · intro member
    exact ⟨_, ⟨member, rfl⟩, rfl⟩

theorem EveryWriter.concat {trace : List (Event ι)} {i : ι} {e : Effect} {answer : e.Answer} {P P' : ι → Prop}
    (every : EveryWriter trace P) (kept : ∀ j, P j → P' j) (last : deedOf e answer = .writes → P' i) :
    EveryWriter (trace ++ [⟨i, e, answer⟩]) P' := by
  intro event member writes
  rcases List.mem_append.mp member with earlier | new
  · exact kept _ (every event earlier writes)
  · obtain rfl := List.mem_singleton.mp new
    exact last writes

theorem mergeAll_concat (documents : Dict (Dict Json)) (changes : List (String × List (String × Json)))
    (name : String) (members : List (String × Json)) :
    mergeAll documents (changes ++ [(name, members)]) = mergeDocument (mergeAll documents changes) name members := by
  simp [mergeAll]

/-- An update that ends adds its change, if it has written. -/
theorem applied_concat {tasks : ι → SettingsTask} {calls : ι → Call TableSettings} {i : ι} {table : Table}
    {members : List (String × Json)} {outcome : Except Error TableSettings} (order : List ι)
    (task : tasks i = .update table (.object members)) (ended : calls i = .ofExcept outcome) :
    applied tasks calls (order ++ [i]) =
      applied tasks calls order ++ if (Stage.ended outcome).hasWritten then [(table.name, members)] else [] := by
  cases outcome <;>
    simp [applied, List.filter_append, ended, Call.ofExcept, Call.succeeded, Stage.hasWritten, task,
      SettingsTask.change?]

section
variable [DecidableEq ι] {schema : String} {tasks : ι → SettingsTask} {documents : Dict (Dict Json)}
  {trace : List (Event ι)} {w w' : SettingsState} {calls : ι → Call TableSettings} {order : List ι} {i : ι}
  {e : Effect} {resume : e.Answer → Call TableSettings} {answer : e.Answer}

/-! A turn of the caller `i` leaves alone the calls that have ended. -/

theorem update_of_ended (next : calls i = .perform e resume) (call : Call TableSettings) {j : ι}
    (ended : Ended (calls j)) : Function.update calls i call j = calls j := by
  refine Function.update_of_ne ?_ _ _
  rintro rfl
  exact not_ended_of_perform next ended

theorem ended_update (next : calls i = .perform e resume) (call : Call TableSettings)
    (ended : ∀ j ∈ order, Ended (calls j)) : ∀ j ∈ order, Ended (Function.update calls i call j) := by
  intro j member
  rw [update_of_ended next call (ended j member)]
  exact ended j member

theorem succeeded_update (next : calls i = .perform e resume) (call : Call TableSettings) {j : ι}
    (succeeded : (calls j).succeeded = true) : (Function.update calls i call j).succeeded = true := by
  have ended : Ended (calls j) := by
    cases stopped : calls j with
    | done value => exact ⟨.ok value, rfl⟩
    | _ => simp [stopped, Call.succeeded] at succeeded
  rwa [update_of_ended next call ended]

theorem applied_update (next : calls i = .perform e resume) (call : Call TableSettings)
    (ended : ∀ j ∈ order, Ended (calls j)) :
    applied tasks (Function.update calls i call) order = applied tasks calls order := by
  rw [applied, applied, List.filter_congr fun j member => by rw [update_of_ended next call (ended j member)]]

theorem outside_update (outcome : Except Error TableSettings) {j : ι}
    (outside : j ≠ i → Outside schema (tasks j) (calls j)) :
    Outside schema (tasks j) (Function.update calls i (.ofExcept outcome) j) := by
  by_cases same : j = i
  · rw [same, Function.update_self]
    exact .ended _ outcome
  · rw [Function.update_of_ne same]
    exact outside same

section
variable {table : Table} {members : List (String × Json)} {stage : Stage} {earlier : List ι}

theorem Free.read (free : Free schema tasks documents trace w calls) (next : calls i = .perform e resume)
    (deed : deedOf e answer = .other) (value : TableSettings) :
    Free schema tasks documents (trace ++ [⟨i, e, answer⟩]) w (Function.update calls i (.done value)) := by
  have order : lockOrder (trace ++ [⟨i, e, answer⟩]) = lockOrder trace := by simp [lockOrder_concat, deed]
  refine ⟨?_, ?_, free.unlocked, ?_, free.coherent, ?_⟩
  · exact fun j => outside_update (.ok value) fun _ => free.outside j
  · rw [order]
    exact ended_update next _ free.ended
  · rw [order, applied_update next _ free.ended, free.merged]
  · exact free.wrote.concat (fun j => succeeded_update next _) (by simp [deed])

theorem Holding.read {holder : ι}
    (holding : Holding schema tasks documents trace w calls holder table members stage earlier)
    (next : calls i = .perform e resume) (apart : holder ≠ i) (deed : deedOf e answer = .other)
    (value : TableSettings) :
    Holding schema tasks documents (trace ++ [⟨i, e, answer⟩]) w (Function.update calls i (.done value)) holder table
      members stage earlier := by
  have order : lockOrder (trace ++ [⟨i, e, answer⟩]) = lockOrder trace := by simp [lockOrder_concat, deed]
  refine ⟨holding.task, ?_, order.trans holding.order, ?_, ended_update next _ holding.ended, ?_, ?_⟩
  · rw [Function.update_of_ne apart]
    exact holding.at_stage
  · exact fun j other => outside_update (.ok value) fun _ => holding.outside j other
  · rw [applied_update next _ holding.ended]
    exact holding.sound
  · exact holding.wrote.concat (fun j => Or.imp_left (succeeded_update next _)) (by simp [deed])

/-- Who takes the lock finds it free, and holds it from then on. -/
theorem Free.enter (free : Free schema tasks documents trace w calls) (next : calls i = .perform e resume)
    (task : tasks i = .update table (.object members)) (deed : deedOf e answer = .enters) :
    Holding schema tasks documents (trace ++ [⟨i, e, answer⟩]) { w with isLocked := true }
      (Function.update calls i (Stage.checking.call schema table members)) i table members .checking
      (lockOrder trace) := by
  refine ⟨task, Function.update_self .., by simp [lockOrder_concat, deed], ?_, ended_update next _ free.ended, ?_, ?_⟩
  · intro j other
    rw [Function.update_of_ne other]
    exact free.outside j
  · rw [applied_update next _ free.ended]
    exact ⟨rfl, free.merged, free.coherent, by simp⟩
  · exact free.wrote.concat (fun j => Or.inl ∘ succeeded_update next _) (by simp [deed])

theorem Holding.step (holding : Holding schema tasks documents trace w calls i table members stage earlier)
    (inside : stage.isInside = true) (next : calls i = .perform e resume) {stage' : Stage}
    (moves : Moves table members stage w (deedOf e answer) stage' w') :
    Holding schema tasks documents (trace ++ [⟨i, e, answer⟩]) w'
      (Function.update calls i (stage'.call schema table members)) i table members stage' earlier := by
  refine ⟨holding.task, Function.update_self .., ?_, ?_, ended_update next _ holding.ended, ?_, ?_⟩
  · rw [lockOrder_concat, if_neg (moves.ahead inside).1, holding.order]
  · intro j other
    rw [Function.update_of_ne other]
    exact holding.outside j other
  · rw [applied_update next _ holding.ended]
    exact moves.sound holding.sound
  · refine holding.wrote.concat ?_ fun writes => .inr ⟨rfl, moves.hasWritten holding.sound (.inr writes)⟩
    rintro j (succeeded | ⟨rfl, written⟩)
    · exact .inl (succeeded_update next _ succeeded)
    · exact .inr ⟨rfl, moves.hasWritten holding.sound (.inl written)⟩

/-- Once the update has given the lock back, its change counts among the others, if it has succeeded. -/
theorem Holding.free {holder : ι} {outcome : Except Error TableSettings}
    (holding : Holding schema tasks documents trace w calls holder table members (.ended outcome) earlier) :
    Free schema tasks documents trace w calls := by
  have now : calls holder = .ofExcept outcome := holding.at_stage
  refine ⟨?_, ?_, holding.sound.locked, ?_, holding.sound.coherent, ?_⟩
  · intro j
    by_cases same : j = holder
    · rw [same, now]
      exact .ended _ outcome
    · exact holding.outside j same
  · intro j member
    rw [holding.order, List.mem_append, List.mem_singleton] at member
    rcases member with before | rfl
    · exact holding.ended j before
    · exact ⟨outcome, now⟩
  · rw [holding.sound.documents, holding.order, applied_concat earlier holding.task now]
    split
    · exact (mergeAll_concat ..).symm
    · rw [List.append_nil]
  · intro event member writes
    rcases holding.wrote event member writes with succeeded | ⟨same, written⟩
    · exact succeeded
    · rw [same, now]
      cases outcome with
      | ok value => rfl
      | error cause => cases written

end

/-- Every turn keeps where a run stands, and leaves the cache as it is or makes it coherent. -/
theorem Standing.step (standing : Standing schema tasks documents trace w calls) (next : calls i = .perform e resume)
    (answers : SettingsState.may schema e w answer w') :
    Standing schema tasks documents (trace ++ [⟨i, e, answer⟩]) w' (Function.update calls i (resume answer)) ∧
      (w'.cache = w.cache ∨ Coherent w'.cache w'.documents) := by
  rcases standing with free | ⟨holder, table, members, stage, earlier, holding, inside⟩
  · rcases (free.outside i).turn next answers with
      ⟨table, task, deed, rfl, goes_on⟩ | ⟨table, members, task, deed, unlocked, rfl, goes_on⟩
    · rw [goes_on]
      exact ⟨.inl (free.read next deed _), .inl rfl⟩
    · rw [goes_on]
      exact ⟨.inr ⟨_, _, _, _, _, free.enter next task deed, rfl⟩, .inl rfl⟩
  · by_cases same : i = holder
    · subst same
      obtain ⟨stage', goes_on, moves⟩ := Stage.moves (holding.at_stage.symm.trans next) answers
      have holding' := holding.step inside next moves
      refine ⟨?_, moves.cached holding.sound⟩
      rw [goes_on]
      rcases (moves.ahead inside).2 with inside' | ⟨outcome, rfl⟩
      · exact .inr ⟨_, _, _, _, _, holding', inside'⟩
      · exact .inl holding'.free
    · rcases (holding.outside i same).turn next answers with
        ⟨table', task, deed, rfl, goes_on⟩ | ⟨table', members', task, deed, unlocked, rfl, goes_on⟩
      · rw [goes_on]
        exact ⟨.inr ⟨_, _, _, _, _, holding.read next (Ne.symm same) deed _, inside⟩, .inl rfl⟩
      · -- No second update can take the lock.
        rw [holding.sound.locked, inside] at unlocked
        cases unlocked

omit [DecidableEq ι] in
/-- Who takes the lock has not had it before: no update holds it, and whoever had it has ended. -/
theorem Standing.not_mem_lockOrder (standing : Standing schema tasks documents trace w calls)
    (next : calls i = .perform e resume) (answers : SettingsState.may schema e w answer w')
    (enters : deedOf e answer = .enters) : i ∉ lockOrder trace := by
  obtain rfl : e = .lock := lock_of_enters enters
  obtain ⟨unlocked, -⟩ := answers
  rcases standing with free | ⟨holder, table, members, stage, earlier, holding, inside⟩
  · exact fun member => not_ended_of_perform next (free.ended i member)
  · rw [holding.sound.locked, inside] at unlocked
    cases unlocked

/-! ## What a run keeps -/

variable {start pool : Pool ι SettingsState TableSettings}

theorem standing_of_run (first : Free schema tasks documents [] start.shared start.calls)
    (run : Pool.Run (SettingsState.may schema) start trace pool) :
    Standing schema tasks documents trace pool.shared pool.calls := by
  induction run with
  | start => exact .inl first
  | step run turn ih =>
    obtain ⟨next, answers⟩ := turn
    exact (ih.step next answers).1

/-- No caller takes the lock twice. -/
theorem nodup_lockOrder (first : Free schema tasks documents [] start.shared start.calls)
    (run : Pool.Run (SettingsState.may schema) start trace pool) : (lockOrder trace).Nodup := by
  induction run with
  | start => exact List.nodup_nil
  | step run turn ih =>
    obtain ⟨next, answers⟩ := turn
    rw [lockOrder_concat]
    split
    · rename_i enters
      have absent := (standing_of_run first run).not_mem_lockOrder next answers enters
      rw [← List.concat_eq_append]
      exact ih.concat absent
    · exact ih

/-- An update that has succeeded took the lock, and its change is an object. -/
theorem locked_of_succeeded (run : Pool.Run (SettingsState.may schema) start trace pool) {table : Table}
    {change : Json} (task : start.calls i = .updateSettings schema table change)
    (succeeded : (pool.calls i).succeeded = true) :
    i ∈ lockOrder trace ∧ ∃ members, change = .object members := by
  have leaves := run.leaves i
  rw [task] at leaves
  cases change with
  | object members =>
    rw [updateSettings_eq] at leaves
    rcases Call.leaves_perform_iff.mp leaves with ⟨-, waits⟩ | ⟨⟨⟩, later, acts, -⟩
    · simp [waits, Call.succeeded] at succeeded
    · have locks : ⟨.lock, ()⟩ ∈ actsOf i trace := by
        rw [acts]
        exact List.mem_cons_self
      exact ⟨mem_lockOrder_iff.mpr (mem_actsOf_iff.mp locks), members, rfl⟩
  | _ =>
    -- What is no object is refused before the lock.
    obtain ⟨-, refused⟩ := Call.leaves_fail_iff.mp leaves
    simp [refused, Call.succeeded] at succeeded

/-- Holds for settings that the document of a name held, or that stand for none, at a moment of a run. -/
def Shown (schema : String) (start : Pool ι SettingsState TableSettings) (trace : List (Event ι))
    (pool : Pool ι SettingsState TableSettings) (name : String) (settings : TableSettings) : Prop :=
  ∃ moment, Pool.Passes (SettingsState.may schema) start trace pool moment ∧
    TableSettings.ofJson (.ofDict ((moment.shared.documents.get? name).getD .empty)) = .ok settings

theorem Shown.step {name : String} {settings : TableSettings} {event : Event ι}
    {pool' : Pool ι SettingsState TableSettings} (shown : Shown schema start trace pool name settings)
    (turn : Pool.Step (SettingsState.may schema) pool event pool') :
    Shown schema start (trace ++ [event]) pool' name settings :=
  shown.imp fun _ => And.imp_left (·.step turn)

/-- Where a cache is coherent, what it has of a name is what the document holds now. -/
theorem shown_of_coherent (run : Pool.Run (SettingsState.may schema) start trace pool)
    (coherent : Coherent pool.shared.cache pool.shared.documents) (name : String) :
    Shown schema start trace pool name ((pool.shared.cache.get? name).getD .blank) :=
  ⟨pool, run.passes, coherent.tracks.shown (coherent.fits name)⟩

/-- What the cache has of a name, its document held at some moment. -/
theorem shown_cache (first : Free schema tasks documents [] start.shared start.calls)
    (run : Pool.Run (SettingsState.may schema) start trace pool) (name : String) :
    Shown schema start trace pool name ((pool.shared.cache.get? name).getD .blank) := by
  induction run with
  | start => exact shown_of_coherent .start first.coherent name
  | @step trace pool pool' event run turn ih =>
    have turned := turn
    obtain ⟨next, answers⟩ := turn
    rcases ((standing_of_run first run).step next answers).2 with same | coherent
    · -- The documents may have moved on; the moment to show is the earlier one.
      rw [same]
      exact ih.step turned
    · exact shown_of_coherent (run.step turned) coherent name

/-- A read has not started, or has ended with what the document of its table held at some moment. -/
theorem shown_read (first : Free schema tasks documents [] start.shared start.calls)
    (run : Pool.Run (SettingsState.may schema) start trace pool) {table : Table}
    (task : start.calls i = .settings table) :
    pool.calls i = .settings table ∨
      ∃ settings, Shown schema start trace pool table.name settings ∧
        pool.calls i = .done (settings.withDefaults table) := by
  induction run with
  | start => exact .inl task
  | @step trace pool pool' event run turn ih =>
    have turned := turn
    obtain @⟨j, e, resume, answer, w', next, answers⟩ := turn
    by_cases same : i = j
    · subst same
      rcases ih with reading | ⟨settings, -, ended⟩
      · rw [reading] at next
        cases next
        obtain ⟨rfl, rfl⟩ := answers
        exact .inr ⟨_, (shown_cache first run table.name).step turned, Function.update_self ..⟩
      · rw [ended] at next
        cases next
    · have still : Function.update pool.calls j (resume answer) i = pool.calls i := Function.update_of_ne same ..
      rcases ih with reading | ⟨settings, shown, ended⟩
      · exact .inl (still.trans reading)
      · exact .inr ⟨settings, shown.step turned, still.trans ended⟩

/-- Settings are coherent, however many callers read and change them, in whatever order they take turns. The cache
    is loaded from documents that all hold settings. Whenever no update holds the lock, each name has an entry just
    if it has a document, and the entry is what the document is decoded to; and the document is the loaded one with
    the changes laid over it that have succeeded, in the order in which they took the lock. Every update that has
    succeeded is in this order, and none is in it twice, so no change is lost. A call whose merge was done does not
    fail. A read ends with what the document of its table held at some moment of the run, with the defaults of the
    table. -/
theorem settings_coherent (tasks : ι → SettingsTask) {before loaded : SettingsState} {cache : Dict TableSettings}
    (fits : ∀ name document, before.documents.get? name = some document →
      ∃ settings, TableSettings.ofJson (.ofDict document) = .ok settings)
    (unlocked : before.isLocked = false)
    (loads : (Call.loadSettings schema).Ends (SettingsState.may schema) before (.ok cache) loaded)
    (run : Pool.Run (SettingsState.may schema) ⟨{ loaded with cache }, fun i => (tasks i).call schema⟩ trace pool) :
    (pool.shared.isLocked = false → ∀ name,
      (pool.shared.cache.get? name).map Except.ok =
          (pool.shared.documents.get? name).map (fun document => TableSettings.ofJson (.ofDict document)) ∧
        pool.shared.documents.get? name =
          laidAll name (before.documents.get? name) (applied tasks pool.calls (lockOrder trace))) ∧
    (lockOrder trace).Nodup ∧
    (∀ i table change, tasks i = .update table change → (pool.calls i).succeeded = true →
      i ∈ lockOrder trace ∧ ∃ members, change = .object members) ∧
    (∀ event ∈ trace, event.deed = .writes → ∀ cause, pool.calls event.caller ≠ .fail cause) ∧
    ∀ i table, tasks i = .read table →
      pool.calls i = .settings table ∨
        ∃ settings,
          Shown schema ⟨{ loaded with cache }, fun i => (tasks i).call schema⟩ trace pool table.name settings ∧
          pool.calls i = .done (settings.withDefaults table) := by
  obtain ⟨rfl, tracks⟩ := tracks_of_loaded loads
  have coherent : Coherent cache loaded.documents := .of_tracks tracks fits
  have first : Free schema tasks loaded.documents [] { loaded with cache } fun i => (tasks i).call schema :=
    ⟨fun i => outside_call schema (tasks i), by simp [lockOrder], unlocked, rfl, coherent, by simp [EveryWriter]⟩
  have standing := standing_of_run first run
  refine ⟨?_, nodup_lockOrder first run, ?_, ?_, ?_⟩
  · intro at_rest name
    rcases standing with free | ⟨holder, table, members, stage, earlier, holding, inside⟩
    · refine ⟨free.coherent.entry name, ?_⟩
      rw [free.merged, get?_mergeAll]
    · rw [holding.sound.locked, inside] at at_rest
      cases at_rest
  · intro i table change task succeeded
    have updates : (tasks i).call schema = .updateSettings schema table change := by rw [task, SettingsTask.call]
    exact locked_of_succeeded run updates succeeded
  · intro event member writes cause failed
    rcases standing with free | ⟨holder, table, members, stage, earlier, holding, inside⟩
    · have succeeded := free.wrote event member writes
      simp [failed, Call.succeeded] at succeeded
    · rcases holding.wrote event member writes with succeeded | ⟨same, -⟩
      · simp [failed, Call.succeeded] at succeeded
      · -- The writer still holds the lock, so it has not ended.
        rw [same, holding.at_stage] at failed
        cases stage <;> first | cases failed | cases inside
  · intro i table task
    refine shown_read first run ?_
    simp only [task, SettingsTask.call]

end

/-! A caller changes the pattern for links, and another one reads between the merge and the caching. -/

def linkMembers : List (String × Json) := [("viewLinkPattern", .string "/b")]

/-- A state whose only document has a color, which is no field of settings. -/
def redState : SettingsState :=
  ⟨.empty, false, .ofList [("users", .ofList [("color", .string "red"), ("viewLinkPattern", .string "/a")])]⟩

def redRows : ResultSet :=
  ⟨[⟨"key", "TEXT"⟩, ⟨"config", "JSONB"⟩],
    [[asciiCell [] "users", asciiCell [1] "\x7b\"color\":\"red\",\"viewLinkPattern\":\"/a\"\x7d"]], 1⟩

def redReply : ResultSet :=
  ⟨[⟨"config", "JSONB"⟩], [[asciiCell [1] "\x7b\"color\":\"red\",\"viewLinkPattern\":\"/b\"\x7d"]], 1⟩

def redCache : Dict TableSettings :=
  TableSettings.cacheOf (redState.documents.entries.map fun entry => (entry.1, .ofDict entry.2))

def redTasks : Bool → SettingsTask
  | true => .update usersTable (.object linkMembers)
  | false => .read usersTable

def redCalls (stage : Stage) (reading : Call TableSettings) : Bool → Call TableSettings
  | true => stage.call "pgdeck" usersTable linkMembers
  | false => reading

def redTrace : List (Event Bool) :=
  [⟨true, .lock, ()⟩, ⟨true, .recall "users", redCache.get? "users"⟩,
    ⟨true, .ask (.execute (mergeSettingsText "pgdeck")
      [.parameter (.text settingsKind), .parameter (.text "users"), .document (.object linkMembers)]), .ok redReply⟩,
    ⟨false, .recall "users", redCache.get? "users"⟩,
    ⟨true, .remember "users" ⟨"/b", [], [], .empty, []⟩, ()⟩, ⟨true, .unlock, ()⟩]

def redStart : Pool Bool SettingsState TableSettings :=
  ⟨{ redState with cache := redCache }, fun i => (redTasks i).call "pgdeck"⟩

/-- The first turns of the run lead to a state, where the writer is at a stage and the reader has this call left. -/
def RedReaches (turns : Nat) (w : SettingsState) (stage : Stage) (reading : Call TableSettings) : Prop :=
  Pool.Run (SettingsState.may "pgdeck") redStart (redTrace.take turns) ⟨w, redCalls stage reading⟩

def newLinks : TableSettings := ⟨"/b", [], [], .empty, []⟩

/-- Where the run ends: the writer is done, and the reader has the settings from before. -/
def redEnd : Pool Bool SettingsState TableSettings :=
  ⟨⟨redCache.insert "users" newLinks, false, mergeDocument redState.documents "users" linkMembers⟩,
    redCalls (.ended (.ok newLinks)) (.done ⟨"/a", [], [], .empty, []⟩)⟩

theorem red_run : Pool.Run (SettingsState.may "pgdeck") redStart redTrace redEnd := by
  have writer_moves {stage stage' : Stage} {reading : Call TableSettings} :
      ∀ j, j ≠ true → redCalls stage' reading j = redCalls stage reading j := by
    rintro (_ | _) other
    · rfl
    · exact absurd rfl other
  have reader_moves {stage : Stage} {reading reading' : Call TableSettings} :
      ∀ j, j ≠ false → redCalls stage reading' j = redCalls stage reading j := by
    rintro (_ | _) other
    · exact absurd rfl other
    · rfl
  have gives : redReply.merged = .ok (.ofDict (laidDocument redState.documents "users" linkMembers)) := by
    with_unfolding_all rfl
  have started : RedReaches 0 { redState with cache := redCache } .waiting (.settings usersTable) := by
    have calls : (fun i => (redTasks i).call "pgdeck") = redCalls .waiting (.settings usersTable) := by
      funext i
      cases i with
      | true => exact updateSettings_eq ..
      | false => rfl
    rw [RedReaches, redStart, calls]
    exact .start
  have locked : RedReaches 1 { redState with cache := redCache, isLocked := true } .checking (.settings usersTable) :=
    started.turn rfl ⟨rfl, rfl⟩ rfl writer_moves
  have checked : RedReaches 2 { redState with cache := redCache, isLocked := true } .writing (.settings usersTable) :=
    locked.turn rfl ⟨rfl, rfl⟩ rfl writer_moves
  have written : RedReaches 3 ⟨redCache, true, mergeDocument redState.documents "users" linkMembers⟩
      (.caching newLinks) (.settings usersTable) :=
    checked.turn rfl (SettingsState.may_merge gives) (by with_unfolding_all rfl) writer_moves
  have read : RedReaches 4 ⟨redCache, true, mergeDocument redState.documents "users" linkMembers⟩
      (.caching newLinks) (.done ⟨"/a", [], [], .empty, []⟩) :=
    written.turn rfl ⟨rfl, rfl⟩ rfl reader_moves
  have remembered : RedReaches 5
      ⟨redCache.insert "users" newLinks, true, mergeDocument redState.documents "users" linkMembers⟩
      (.releasing (.ok newLinks)) (.done ⟨"/a", [], [], .empty, []⟩) :=
    read.turn rfl rfl rfl writer_moves
  exact remembered.turn rfl rfl rfl writer_moves

theorem settings_coherent_links :
    ((Call.loadSettings "pgdeck").Ends (SettingsState.may "pgdeck") redState (.ok redCache) redState ∧
      Pool.Run (SettingsState.may "pgdeck") redStart redTrace redEnd ∧ redEnd.shared.isLocked = false) ∧
    (redEnd.shared.cache.get? "users").map Except.ok =
      (redEnd.shared.documents.get? "users").map (fun document => TableSettings.ofJson (.ofDict document)) ∧
    redEnd.shared.documents.get? "users" =
      laidAll "users" (redState.documents.get? "users") [("users", linkMembers)] ∧
    (lockOrder redTrace).Nodup ∧ (redEnd.calls true).succeeded = true ∧ true ∈ lockOrder redTrace ∧
    (∀ cause, redEnd.calls true ≠ .fail cause) ∧
    ∃ settings, Shown "pgdeck" redStart redTrace redEnd "users" settings ∧
      redEnd.calls false = .done (settings.withDefaults usersTable) := by
  have loads : (Call.loadSettings "pgdeck").Ends (SettingsState.may "pgdeck") redState (.ok redCache) redState := by
    have read : redRows.allRows.mapM TableSettings.entryOfRow =
        .ok (redState.documents.entries.map fun entry => (entry.1, .ofDict entry.2)) := by with_unfolding_all rfl
    exact SettingsState.may_load read (.refl _)
  have fits : ∀ name document, redState.documents.get? name = some document →
      ∃ settings, TableSettings.ofJson (.ofDict document) = .ok settings := by
    intro name document present
    have listed := Dict.mem_of_get? present
    obtain ⟨rfl, rfl⟩ := Prod.mk.inj (List.mem_singleton.mp listed)
    exact ⟨⟨"/a", [], [], .empty, []⟩, rfl⟩
  obtain ⟨coherent, once, locked, written, read⟩ := settings_coherent redTasks fits rfl loads red_run
  obtain ⟨entry, document⟩ := coherent rfl "users"
  obtain ⟨listed, -⟩ := locked true usersTable (.object linkMembers) rfl rfl
  have success := written _ (.tail _ (.tail _ (.head _))) rfl
  rcases read false usersTable rfl with reading | ended
  · cases reading
  · exact ⟨⟨loads, red_run, rfl⟩, entry, document, once, rfl, listed, success, ended⟩

end TableGateway
