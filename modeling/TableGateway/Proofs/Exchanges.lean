import TableGateway.Call.World

/-!
# What a call sends to the database

The requests of a call, in order, each with the cause for which it failed, if it did (`Call.exchanges`), or with
the whole answer (`Call.dialogue`). A call that goes on with the value of another one sends that one's requests
first (`exchanges_bind`, `dialogue_bind`), so it sends none but allowed requests if its parts do (`SendsOnly.bind`), and
a database that can be reached keeps just these requests (`received_run`).
-/
namespace TableGateway

/-- A request with what the database answered. -/
structure Answered where
  request : Database.Request
  answer : request.Answer

/-- A request with the cause for which the database did not do it, if it did not. -/
structure Exchange where
  request : Database.Request
  fault : Option DatabaseError

def faultOf {α : Type} : Except DatabaseError α → Option DatabaseError
  | .ok _ => none
  | .error cause => some cause

def Database.Request.fault : (request : Database.Request) → request.Answer → Option DatabaseError
  | .execute .., answer => faultOf answer
  | .describe _, answer => faultOf answer
  | .transaction _, answer => faultOf answer
  | .connect .., answer => faultOf answer

def Answered.exchange (a : Answered) : Exchange :=
  ⟨a.request, a.request.fault a.answer⟩

def Effect.dialogue : (e : Effect) → e.Answer → List Answered
  | .ask request, answer => [⟨request, answer⟩]
  | _, _ => []

def Effect.exchanges : (e : Effect) → e.Answer → List Exchange
  | .ask request, answer => [⟨request, request.fault answer⟩]
  | _, _ => []

/-- An entry of a log is its last one, or stands before it. -/
theorem concat_parts {α : Type} {log before after : List α} {last a : α}
    (parts : log ++ [last] = before ++ a :: after) :
    (after = [] ∧ before = log ∧ a = last) ∨ ∃ between, after = between ++ [last] ∧ log = before ++ a :: between := by
  obtain rfl | ⟨between, b, rfl⟩ := List.eq_nil_or_concat after
  · obtain ⟨same, last_eq⟩ := List.append_inj' parts rfl
    exact .inl ⟨rfl, same.symm, (List.singleton_inj.mp last_eq).symm⟩
  · rw [List.concat_eq_append, ← List.cons_append, ← List.append_assoc] at parts
    obtain ⟨same, last_eq⟩ := List.append_inj' parts rfl
    exact .inr ⟨between, by rw [List.concat_eq_append, last_eq], same⟩

namespace Call
variable {α β σ : Type}

/-- The requests that a call sends, in order, with their answers. -/
def dialogue (answer : (e : Effect) → σ → e.Answer × σ) : Call α → σ → List Answered
  | done _, _ => []
  | fail _, _ => []
  | perform e resume, s =>
    e.dialogue (answer e s).1 ++ dialogue answer (resume (answer e s).1) (answer e s).2

/-- The requests that a call sends, in order. -/
def exchanges (answer : (e : Effect) → σ → e.Answer × σ) : Call α → σ → List Exchange
  | done _, _ => []
  | fail _, _ => []
  | perform e resume, s =>
    e.exchanges (answer e s).1 ++ exchanges answer (resume (answer e s).1) (answer e s).2

variable (answer : (e : Effect) → σ → e.Answer × σ)

/-! ## Requests with their answers -/

@[simp] theorem dialogue_perform (e : Effect) (resume : e.Answer → Call α) (s : σ) :
    dialogue answer (perform e resume) s =
      e.dialogue (answer e s).1 ++ dialogue answer (resume (answer e s).1) (answer e s).2 := rfl

/-- Going on with the value of a call sends the requests of the call first. -/
theorem dialogue_bind (call : Call α) (next : α → Call β) (s : σ) :
    dialogue answer (bind call next) s =
      dialogue answer call s ++
        match run answer call s with
        | (.ok value, s) => dialogue answer (next value) s
        | (.error _, _) => [] := by
  induction call generalizing s with
  | done value => rfl
  | fail cause => rfl
  | perform e resume ih =>
    rw [bind_perform, dialogue_perform, ih, dialogue_perform, List.append_assoc]
    rfl

@[simp] theorem dialogue_ofDatabase (given : Except DatabaseError α) (s : σ) :
    dialogue answer (ofDatabase given) s = [] := by
  cases given <;> rfl

@[simp] theorem run_ofDatabase (given : Except DatabaseError α) (s : σ) :
    run answer (ofDatabase given) s = (given.mapError .database, s) := by
  cases given <;> rfl

@[simp] theorem dialogue_ofExcept (outcome : Except Error α) (s : σ) : dialogue answer (ofExcept outcome) s = [] := by
  cases outcome <;> rfl

@[simp] theorem run_ofExcept (outcome : Except Error α) (s : σ) : run answer (ofExcept outcome) s = (outcome, s) := by
  cases outcome <;> rfl

/-- A statement that is run is one request, whose failure is that of the call. -/
theorem run_execute (sql : String) (arguments : List Argument) (s : σ) :
    run answer (execute sql arguments) s =
      ((answer (.ask (.execute sql arguments)) s).1.mapError .database,
        (answer (.ask (.execute sql arguments)) s).2) := by
  simp [execute, effect, run]

theorem dialogue_execute (sql : String) (arguments : List Argument) (s : σ) :
    dialogue answer (execute sql arguments) s =
      [⟨.execute sql arguments, (answer (.ask (.execute sql arguments)) s).1⟩] := by
  simp [execute, effect, Effect.dialogue]

theorem run_describe (sql : String) (s : σ) :
    run answer (describe sql) s =
      ((answer (.ask (.describe sql)) s).1.mapError .database, (answer (.ask (.describe sql)) s).2) := by
  simp [describe, effect, run]

theorem dialogue_describe (sql : String) (s : σ) :
    dialogue answer (describe sql) s = [⟨.describe sql, (answer (.ask (.describe sql)) s).1⟩] := by
  simp [describe, effect, Effect.dialogue]

/-- What is done with the value of a call alone sends nothing. -/
theorem dialogue_bind_done (call : Call α) (f : α → β) (s : σ) :
    dialogue answer (bind call fun value => done (f value)) s = dialogue answer call s := by
  rw [dialogue_bind]
  cases run answer call s with
  | mk outcome s => cases outcome <;> exact List.append_nil _

section
variable {s : σ} {name : String} {t : Table} (known : (answer .snapshot s).1.get? name = some t)
include known

theorem dialogue_table (next : Table → Call β) :
    dialogue answer (bind (table name) next) s = dialogue answer (next t) (answer .snapshot s).2 := by
  simp [table, tables, effect, known, Effect.dialogue]

theorem run_table (next : Table → Call β) :
    run answer (bind (table name) next) s = run answer (next t) (answer .snapshot s).2 := by
  simp [table, tables, effect, known, run]

end

/-! ## Requests that may be sent -/

/-- Holds for calls that send none but allowed requests, whatever is answered. -/
def SendsOnly {α : Type} (allowed : Database.Request → Prop) (call : Call α) : Prop :=
  ∀ (σ : Type) (answer : (e : Effect) → σ → e.Answer × σ) (s : σ), ∀ a ∈ call.dialogue answer s, allowed a.request

section
variable {allowed : Database.Request → Prop}

theorem sendsOnly_done (value : α) : SendsOnly allowed (done value) := by
  intro σ answer s a sent
  cases sent

theorem sendsOnly_ofDatabase (given : Except DatabaseError α) : SendsOnly allowed (ofDatabase given) := by
  intro σ answer s a sent
  rw [dialogue_ofDatabase] at sent
  cases sent

theorem sendsOnly_ask {request : Database.Request} (may : allowed request) : SendsOnly allowed (effect (.ask request)) := by
  intro σ answer s a sent
  obtain rfl := List.mem_singleton.mp sent
  exact may

theorem SendsOnly.bind {call : Call α} {next : α → Call β} (first : SendsOnly allowed call)
    (then_next : ∀ value, SendsOnly allowed (next value)) : SendsOnly allowed (Call.bind call next) := by
  intro σ answer s a sent
  rw [dialogue_bind] at sent
  obtain sent | sent := List.mem_append.mp sent
  · exact first σ answer s a sent
  · cases ran : call.run answer s with
    | mk outcome s' =>
      rw [ran] at sent
      cases outcome with
      | ok value => exact then_next value σ answer s' a sent
      | error cause => cases sent

theorem sendsOnly_execute {sql : String} {arguments : List Argument} (may : allowed (.execute sql arguments)) :
    SendsOnly allowed (execute sql arguments) :=
  (sendsOnly_ask may).bind fun reply => sendsOnly_ofDatabase reply

end

/-! ## Requests with their faults -/

@[simp] theorem exchanges_done (value : α) (s : σ) : exchanges answer (done value) s = [] := rfl

@[simp] theorem exchanges_fail (cause : Error) (s : σ) : exchanges answer (fail cause : Call α) s = [] := rfl

@[simp] theorem exchanges_perform (e : Effect) (resume : e.Answer → Call α) (s : σ) :
    exchanges answer (perform e resume) s =
      e.exchanges (answer e s).1 ++ exchanges answer (resume (answer e s).1) (answer e s).2 := rfl

theorem map_exchange_dialogue (call : Call α) (s : σ) :
    (dialogue answer call s).map Answered.exchange = exchanges answer call s := by
  induction call generalizing s with
  | done value => rfl
  | fail cause => rfl
  | perform e resume ih =>
    have alone : (e.dialogue (answer e s).1).map Answered.exchange = e.exchanges (answer e s).1 := by
      cases e <;> rfl
    rw [dialogue_perform, List.map_append, alone, ih, exchanges_perform]

theorem exchanges_bind (call : Call α) (next : α → Call β) (s : σ) :
    exchanges answer (bind call next) s =
      exchanges answer call s ++
        match run answer call s with
        | (.ok value, s) => exchanges answer (next value) s
        | (.error _, _) => [] := by
  rw [← map_exchange_dialogue, dialogue_bind, List.map_append, map_exchange_dialogue]
  cases run answer call s with
  | mk outcome s =>
    cases outcome with
    | ok value => rw [map_exchange_dialogue]
    | error cause => rfl

@[simp] theorem exchanges_attempt (call : Call α) (s : σ) :
    exchanges answer (attempt call) s = exchanges answer call s := by
  induction call generalizing s with
  | done value => rfl
  | fail cause => rfl
  | perform e resume ih => exact congrArg (e.exchanges (answer e s).1 ++ ·) (ih _ _)

theorem exchanges_execute (sql : String) (arguments : List Argument) (s : σ) :
    exchanges answer (execute sql arguments) s =
      [⟨.execute sql arguments, faultOf (answer (.ask (.execute sql arguments)) s).1⟩] := by
  rw [← map_exchange_dialogue, dialogue_execute]
  rfl

end Call

/-! ## Databases that keep what they receive -/

namespace World

theorem received_answer (w : World) (reachable : w.database.outage = none) (e : Effect) :
    (w.answer e).2.database.received =
        ((e.exchanges (w.answer e).1).map (·.request)).reverse ++ w.database.received ∧
      (w.answer e).2.database.outage = none := by
  cases e with
  | ask request =>
    simp only [World.answer, Database.answer, reachable, Effect.exchanges]
    cases request <;> exact ⟨rfl, reachable⟩
  | _ => exact ⟨rfl, reachable⟩

/-- A database that can be reached keeps the requests of a call, the last first. -/
theorem received_run {α : Type} (call : Call α) (w : World) (reachable : w.database.outage = none) :
    (w.run call).2.database.received =
      ((call.exchanges World.answer w).map (·.request)).reverse ++ w.database.received := by
  induction call generalizing w with
  | done value => rfl
  | fail cause => rfl
  | perform e resume ih =>
    obtain ⟨received, still⟩ := w.received_answer reachable e
    have later := ih (World.answer e w).1 (World.answer e w).2 still
    rw [World.run] at later ⊢
    rw [Call.run, later, received, Call.exchanges_perform, List.map_append, List.reverse_append, List.append_assoc]

end World
end TableGateway
