import TableGateway.Call.Effect

/-!
# Calls

A call is a tree: it ends with a value or a cause, or performs an effect and goes on with the answer. `run`
follows it through a world that answers effects. `attempt` makes a cause a value, so that what must happen in
any case can follow.
-/
namespace TableGateway

/-- A call that gives an `α` or a cause. -/
inductive Call (α : Type) where
  | done (value : α)
  | fail (cause : Error)
  | perform (effect : Effect) (resume : effect.Answer → Call α)

namespace Call
variable {α β σ : Type}

/-- Goes on with the value of a call. -/
def bind : Call α → (α → Call β) → Call β
  | done value, next => next value
  | fail cause, _ => fail cause
  | perform effect resume, next => perform effect fun answer => bind (resume answer) next

instance : Monad Call where
  pure := done
  bind := bind

/-- The call with its outcome as a value. -/
def attempt : Call α → Call (Except Error α)
  | done value => done (.ok value)
  | fail cause => done (.error cause)
  | perform effect resume => perform effect fun answer => attempt (resume answer)

/-- The call with this outcome. -/
def ofExcept : Except Error α → Call α
  | .ok value => done value
  | .error cause => fail cause

/-- The effect alone. -/
def effect (e : Effect) : Call e.Answer :=
  perform e done

/-- Follows a call through a world. -/
def run (answer : (e : Effect) → σ → e.Answer × σ) : Call α → σ → Except Error α × σ
  | done value, s => (.ok value, s)
  | fail cause, s => (.error cause, s)
  | perform e resume, s => run answer (resume (answer e s).1) (answer e s).2

/-! ## Requests to the database -/

/-- A value that the database gave, or its cause as the cause of the call. -/
def ofDatabase : Except DatabaseError α → Call α
  | .ok value => done value
  | .error cause => fail (.database cause)

def execute (sql : String) (arguments : List Argument) : Call ResultSet := do
  ofDatabase (← effect (.ask (.execute sql arguments)))

/-- Asks for the description of a statement. -/
def describe (sql : String) : Call Description := do
  ofDatabase (← effect (.ask (.describe sql)))

/-- Runs a body within a transaction: it is committed when the body succeeds, and rolled back when the body
    or the commit fails. -/
def transaction (body : Call α) : Call α := do
  ofDatabase (← effect (.ask (.transaction .start)))
  match ← attempt body with
  | .ok value =>
    match ← effect (.ask (.transaction .commit)) with
    | .ok () => return value
    | .error cause =>
      let _ ← effect (.ask (.transaction .rollback))
      fail (.database cause)
  | .error cause =>
    let _ ← effect (.ask (.transaction .rollback))
    fail cause

/-! ## Shared state -/

def tables : Call Tables :=
  effect .snapshot

/-- The published table of a name. -/
def table (name : String) : Call Table := do
  match (← tables).get? name with
  | some table => return table
  | none => fail (.unknownTable name)

/-- Runs a body that holds the lock of the settings. -/
def locked (body : Call α) : Call α := do
  effect .lock
  let outcome ← attempt body
  effect .unlock
  ofExcept outcome

/-! ## Laws -/

@[simp] theorem pure_eq (value : α) : (pure value : Call α) = done value := rfl

@[simp] theorem bind_eq (call : Call α) (next : α → Call β) : (call >>= next) = bind call next := rfl

@[simp] theorem bind_done (value : α) (next : α → Call β) : bind (done value) next = next value := rfl

@[simp] theorem bind_fail (cause : Error) (next : α → Call β) : bind (fail cause) next = fail cause := rfl

@[simp] theorem bind_perform (e : Effect) (resume : e.Answer → Call α) (next : α → Call β) :
    bind (perform e resume) next = perform e fun answer => bind (resume answer) next := rfl

theorem bind_assoc {γ : Type} (call : Call α) (next : α → Call β) (last : β → Call γ) :
    bind (bind call next) last = bind call fun value => bind (next value) last := by
  induction call with
  | done value => rfl
  | fail cause => rfl
  | perform e resume ih => exact congrArg (perform e) (funext ih)

/-- A statement whose reply is read at once is one request, behind which the call has its outcome. -/
theorem execute_read (sql : String) (arguments : List Argument) (read : ResultSet → Except DatabaseError α) :
    (bind (execute sql arguments) fun set => ofDatabase (read set)) =
      perform (.ask (.execute sql arguments)) fun reply => ofDatabase (reply.bind read) := by
  refine congrArg (perform (.ask (.execute sql arguments))) (funext fun reply => ?_)
  cases reply <;> rfl

/-- Running on with the value of a call runs the call first. -/
theorem run_bind (answer : (e : Effect) → σ → e.Answer × σ) (call : Call α) (next : α → Call β)
    (s : σ) :
    run answer (bind call next) s =
      match run answer call s with
      | (.ok value, s) => run answer (next value) s
      | (.error cause, s) => (.error cause, s) := by
  induction call generalizing s with
  | done value => rfl
  | fail cause => rfl
  | perform e resume ih => exact ih _ _

/-- An attempt leaves the world as the call does, and gives its outcome. -/
theorem run_attempt (answer : (e : Effect) → σ → e.Answer × σ) (call : Call α) (s : σ) :
    run answer (attempt call) s = (.ok (run answer call s).1, (run answer call s).2) := by
  induction call generalizing s with
  | done value => rfl
  | fail cause => rfl
  | perform e resume ih => exact ih _ _

end Call
end TableGateway
