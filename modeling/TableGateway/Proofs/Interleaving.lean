import Mathlib
import TableGateway.Call.Basic

/-!
# Interleaved calls

Calls that are in progress at the same time take turns, one effect at a time (`Pool.Step`). What may answer an
effect, and what it leaves behind, is a relation (`Environment`), so that a run can take any order and meet any
answer. A run keeps what was done, in order (`Pool.Run`), and passes through the states between
(`Pool.Passes`). What one caller did in a run leads from its call to what it has left to do (`Run.leaves`), so it
can be told from the call alone, whatever the others did. A call that runs alone is a run of its effects to its
end (`Call.Ends`).
-/
namespace TableGateway
variable {ι σ α : Type}

/-- The answers that an effect may get in a state, and the states it may leave. -/
abbrev Environment (σ : Type) := (e : Effect) → σ → e.Answer → σ → Prop

/-! ## A call alone -/

/-- The outcomes that a call may have, and the states it may leave. -/
inductive Call.Ends (may : Environment σ) : Call α → σ → Except Error α → σ → Prop where
  | done (value : α) (s : σ) : Ends may (.done value) s (.ok value) s
  | fail (cause : Error) (s : σ) : Ends may (.fail cause) s (.error cause) s
  | perform {e : Effect} {resume : e.Answer → Call α} {s between s' : σ} {answer : e.Answer}
      {outcome : Except Error α} (answers : may e s answer between)
      (goes_on : Ends may (resume answer) between outcome s') : Ends may (.perform e resume) s outcome s'

namespace Call
variable {may : Environment σ} {s s' : σ} {outcome : Except Error α}

@[simp] theorem ends_done_iff {value : α} : Ends may (.done value) s outcome s' ↔ outcome = .ok value ∧ s' = s := by
  constructor
  · rintro ⟨⟩
    exact ⟨rfl, rfl⟩
  · rintro ⟨rfl, rfl⟩
    exact .done value s'

@[simp] theorem ends_fail_iff {cause : Error} :
    Ends may (.fail cause) s outcome s' ↔ outcome = .error cause ∧ s' = s := by
  constructor
  · rintro ⟨⟩
    exact ⟨rfl, rfl⟩
  · rintro ⟨rfl, rfl⟩
    exact .fail cause s'

theorem ends_perform_iff {e : Effect} {resume : e.Answer → Call α} :
    Ends may (.perform e resume) s outcome s' ↔
      ∃ answer between, may e s answer between ∧ Ends may (resume answer) between outcome s' := by
  constructor
  · rintro (_ | _ | ⟨answers, goes_on⟩)
    exact ⟨_, _, answers, goes_on⟩
  · rintro ⟨_, _, answers, goes_on⟩
    exact .perform answers goes_on

@[simp] theorem ends_ofExcept_iff {given : Except Error α} :
    Ends may (.ofExcept given) s outcome s' ↔ outcome = given ∧ s' = s := by
  cases given <;> simp [ofExcept]

end Call

/-! ## Calls that take turns -/

/-- What a caller did: an effect, with its answer. -/
structure Event (ι : Type) where
  caller : ι
  effect : Effect
  answer : effect.Answer

/-- Calls in progress, by caller, and what they share. -/
structure Pool (ι σ α : Type) where
  shared : σ
  calls : ι → Call α

namespace Pool
variable [DecidableEq ι] {may : Environment σ}

/-- A turn: one caller's next effect is answered, and the others stay where they are. -/
inductive Step (may : Environment σ) (pool : Pool ι σ α) : Event ι → Pool ι σ α → Prop where
  | turn {i : ι} {e : Effect} {resume : e.Answer → Call α} {answer : e.Answer} {shared : σ}
      (next : pool.calls i = .perform e resume) (answers : may e pool.shared answer shared) :
      Step may pool ⟨i, e, answer⟩ ⟨shared, Function.update pool.calls i (resume answer)⟩

/-- A run from a pool: what was done, in order, and the pool it leads to. -/
inductive Run (may : Environment σ) (start : Pool ι σ α) : List (Event ι) → Pool ι σ α → Prop where
  | start : Run may start [] start
  | step {trace : List (Event ι)} {pool pool' : Pool ι σ α} {event : Event ι} (run : Run may start trace pool)
      (turn : Step may pool event pool') : Run may start (trace ++ [event]) pool'

/-- Holds for the pools that a run passes through, its start and its end included. -/
def Passes (may : Environment σ) (start : Pool ι σ α) (trace : List (Event ι)) (pool moment : Pool ι σ α) : Prop :=
  ∃ before after, trace = before ++ after ∧ Run may start before moment ∧ Run may moment after pool

variable {start pool pool' moment : Pool ι σ α} {trace : List (Event ι)} {event : Event ι}

theorem Run.turn {i : ι} {e : Effect} {resume : e.Answer → Call α} {answer : e.Answer} {shared : σ}
    {calls : ι → Call α} (run : Run may start trace pool) (next : pool.calls i = .perform e resume)
    (answers : may e pool.shared answer shared) (goes_on : calls i = resume answer)
    (others : ∀ j, j ≠ i → calls j = pool.calls j) : Run may start (trace ++ [⟨i, e, answer⟩]) ⟨shared, calls⟩ := by
  obtain rfl : calls = Function.update pool.calls i (resume answer) := by
    funext j
    by_cases same : j = i
    · rw [same, Function.update_self, goes_on]
    · rw [Function.update_of_ne same, others j same]
  exact run.step (.turn next answers)

theorem Run.passes (run : Run may start trace pool) : Passes may start trace pool pool :=
  ⟨trace, [], by simp, run, .start⟩

/-- A turn more leaves a run behind with the pools it passed through. -/
theorem Passes.step (passes : Passes may start trace pool moment) (turn : Step may pool event pool') :
    Passes may start (trace ++ [event]) pool' moment := by
  obtain ⟨before, after, rfl, reached, left⟩ := passes
  exact ⟨before, after ++ [event], by simp, reached, left.step turn⟩

end Pool

/-! ## What one caller did -/

/-- An effect with its answer. -/
structure Act where
  effect : Effect
  answer : effect.Answer

/-- Holds when a call that did this has the rest left to do. -/
inductive Call.Leaves : Call α → List Act → Call α → Prop where
  | nothing (call : Call α) : Leaves call [] call
  | perform {e : Effect} {resume : e.Answer → Call α} {answer : e.Answer} {later : List Act} {rest : Call α}
      (goes_on : Leaves (resume answer) later rest) : Leaves (.perform e resume) (⟨e, answer⟩ :: later) rest

namespace Call
variable {call rest : Call α} {acts : List Act}

theorem leaves_done_iff {value : α} : Leaves (.done value) acts rest ↔ acts = [] ∧ rest = .done value := by
  constructor
  · rintro ⟨⟩
    exact ⟨rfl, rfl⟩
  · rintro ⟨rfl, rfl⟩
    exact .nothing _

theorem leaves_fail_iff {cause : Error} : Leaves (.fail cause) acts rest ↔ acts = [] ∧ rest = .fail cause := by
  constructor
  · rintro ⟨⟩
    exact ⟨rfl, rfl⟩
  · rintro ⟨rfl, rfl⟩
    exact .nothing _

theorem leaves_perform_iff {e : Effect} {resume : e.Answer → Call α} :
    Leaves (.perform e resume) acts rest ↔
      (acts = [] ∧ rest = .perform e resume) ∨
        ∃ answer later, acts = ⟨e, answer⟩ :: later ∧ Leaves (resume answer) later rest := by
  constructor
  · rintro (_ | goes_on)
    · exact .inl ⟨rfl, rfl⟩
    · exact .inr ⟨_, _, rfl, goes_on⟩
  · rintro (⟨rfl, rfl⟩ | ⟨_, _, rfl, goes_on⟩)
    · exact .nothing _
    · exact .perform goes_on

theorem Leaves.concat {e : Effect} {resume : e.Answer → Call α} (leaves : Leaves call acts (.perform e resume))
    (answer : e.Answer) : Leaves call (acts ++ [⟨e, answer⟩]) (resume answer) := by
  generalize next : Call.perform e resume = rest at leaves
  induction leaves with
  | nothing call =>
    rw [← next]
    exact .perform (.nothing _)
  | perform _ ih => exact .perform (ih next)

end Call

def Event.act (event : Event ι) : Act :=
  ⟨event.effect, event.answer⟩

section
variable [DecidableEq ι] {may : Environment σ}

/-- What a caller did, in order. -/
def actsOf (i : ι) (trace : List (Event ι)) : List Act :=
  (trace.filter fun event => event.caller = i).map Event.act

theorem actsOf_concat (i : ι) (trace : List (Event ι)) (event : Event ι) :
    actsOf i (trace ++ [event]) = actsOf i trace ++ if event.caller = i then [event.act] else [] := by
  by_cases same : event.caller = i <;> simp [actsOf, same]

theorem mem_actsOf_iff {i : ι} {trace : List (Event ι)} {e : Effect} {answer : e.Answer} :
    ⟨e, answer⟩ ∈ actsOf i trace ↔ ⟨i, e, answer⟩ ∈ trace := by
  simp only [actsOf, List.mem_map, List.mem_filter, decide_eq_true_eq]
  constructor
  · rintro ⟨event, ⟨member, rfl⟩, same⟩
    cases same
    exact member
  · intro member
    exact ⟨_, ⟨member, rfl⟩, rfl⟩

/-- What a caller did leads from its call to what it has left to do. -/
theorem Pool.Run.leaves {start pool : Pool ι σ α} {trace : List (Event ι)} (run : Run may start trace pool) (i : ι) :
    (start.calls i).Leaves (actsOf i trace) (pool.calls i) := by
  induction run with
  | start => exact .nothing _
  | step run turn ih =>
    cases turn with
    | @turn j e resume answer shared next answers =>
      rw [actsOf_concat]
      by_cases same : j = i
      · subst same
        rw [next] at ih
        simpa [Event.act] using ih.concat answer
      · simpa [same, Function.update_of_ne (Ne.symm same)] using ih

end
end TableGateway
