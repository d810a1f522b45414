import TableGateway.Http.Service
import TableGateway.Proofs.Exchanges
import TableGateway.Proofs.LinkMembership

/-!
# How a change of links is sent

A change of links is one transaction, whatever the database answers. Between BEGIN and its end it sends the
statements of the change in order, up to the first one that fails (`Transacted`). It asks for COMMIT when all of
them are done, and else rolls back once and answers with the cause of the failure; the linked rows are read again
only behind a COMMIT that succeeded (`change_sent`). One lemma says what any transaction sends around its body
(`exchanges_transaction`), one what the steps of a change send (`runSteps_sent`).
-/
namespace TableGateway

/-- The statements for a list of keys: for each the pair with the row's key, and right behind it the reversed pair
    when the relation goes both ways. -/
def Link.statements (link : Link) (text id : String) (others : List Json) : List (String × List Argument) :=
  others.flatMap fun other =>
    let key := Sql.Parameter.ofJson other link.relatedColumn.typeName
    (text, [.parameter (.text id), .parameter key]) ::
      if link.relation.bidirectional then [(text, [.parameter key, .parameter (.text id)])] else []

/-- The statements of a change: those that remove links, then those that add some. -/
def Link.planned (link : Link) (id : String) (change : LinkChange) : List (String × List Argument) :=
  link.statements link.removeText id change.deleted ++ link.statements link.addText id change.added

def markSent (mark : TransactionMark) (fault : Option DatabaseError) : Exchange :=
  ⟨.transaction mark, fault⟩

def statementSent (fault : Option DatabaseError) (statement : String × List Argument) : Exchange :=
  ⟨.execute statement.1 statement.2, fault⟩

def statementsOf (log : List Exchange) : List (String × List Argument) :=
  log.filterMap fun exchange =>
    match exchange.request with
    | .execute text arguments => some (text, arguments)
    | _ => none

/-- What is sent for planned statements in a transaction, and how it ends. -/
inductive Transacted (planned : List (String × List Argument)) : List Exchange → Except Error Unit → Prop where
  | refused (fault : DatabaseError) : Transacted planned [markSent .start (some fault)] (.error (.database fault))
  | broken {before : List (String × List Argument)} {failing : String × List Argument}
      {after : List (String × List Argument)} (fault : DatabaseError) (rollback : Option DatabaseError)
      (split : planned = before ++ failing :: after) :
      Transacted planned
        (markSent .start none :: before.map (statementSent none) ++
          [statementSent (some fault) failing, markSent .rollback rollback])
        (.error (.database fault))
  | uncommitted (fault : DatabaseError) (rollback : Option DatabaseError) :
      Transacted planned
        (markSent .start none :: planned.map (statementSent none) ++
          [markSent .commit (some fault), markSent .rollback rollback])
        (.error (.database fault))
  | committed :
      Transacted planned (markSent .start none :: planned.map (statementSent none) ++ [markSent .commit none])
        (.ok ())

/-! ## Transactions -/

section
variable {α σ : Type} (answer : (e : Effect) → σ → e.Answer × σ)

abbrev answerTo (mark : TransactionMark) (s : σ) : Except DatabaseError Unit × σ :=
  answer (.ask (.transaction mark)) s

/-- What a transaction sends around its body. -/
theorem exchanges_transaction (body : Call α) (s : σ) :
    (Call.transaction body).exchanges answer s =
      match answerTo answer .start s with
      | (.error fault, _) => [markSent .start (some fault)]
      | (.ok _, s) =>
        markSent .start none :: body.exchanges answer s ++
          match body.run answer s with
          | (.error _, s) => [markSent .rollback (faultOf (answerTo answer .rollback s).1)]
          | (.ok _, s) =>
            match answerTo answer .commit s with
            | (.ok _, _) => [markSent .commit none]
            | (.error fault, s) =>
              [markSent .commit (some fault), markSent .rollback (faultOf (answerTo answer .rollback s).1)] := by
  simp only [Call.transaction, Call.effect, Call.bind_eq, Call.bind_perform, Call.bind_done,
    Call.exchanges_perform, Effect.exchanges, Database.Request.fault, answerTo]
  cases answer (.ask (.transaction .start)) s with
  | mk started s =>
    cases started with
    | error fault => rfl
    | ok value =>
      simp only [Call.ofDatabase, Call.bind_done, Call.exchanges_bind, Call.exchanges_attempt, Call.run_attempt,
        faultOf, List.cons_append, List.nil_append]
      cases body.run answer s with
      | mk outcome s =>
        cases outcome with
        | error cause => rfl
        | ok value =>
          simp only [Call.exchanges_perform, Effect.exchanges, Database.Request.fault]
          cases answer (.ask (.transaction .commit)) s with
          | mk committed s => cases committed <;> rfl

theorem outcome_transaction (body : Call α) (s : σ) :
    ((Call.transaction body).run answer s).1 =
      match answerTo answer .start s with
      | (.error fault, _) => .error (.database fault)
      | (.ok _, s) =>
        match body.run answer s with
        | (.error cause, _) => .error cause
        | (.ok value, s) =>
          match answerTo answer .commit s with
          | (.ok _, _) => .ok value
          | (.error fault, _) => .error (.database fault) := by
  simp only [Call.transaction, Call.effect, Call.bind_eq, Call.bind_perform, Call.bind_done, Call.run, answerTo]
  cases answer (.ask (.transaction .start)) s with
  | mk started s =>
    cases started with
    | error fault => rfl
    | ok value =>
      simp only [Call.ofDatabase, Call.bind_done, Call.run_bind, Call.run_attempt]
      cases body.run answer s with
      | mk outcome s =>
        cases outcome with
        | error cause => rfl
        | ok value =>
          simp only [Call.run]
          cases answer (.ask (.transaction .commit)) s with
          | mk committed s => cases committed <;> rfl

/-! ## Steps -/

variable (link : Link)

def Link.statement (step : LinkStep) : String × List Argument :=
  (link.stepText step, step.parameters.map .parameter)

/-- Steps are sent in order until one fails, whose cause is the outcome then. -/
theorem runSteps_sent (steps : List LinkStep) (s : σ) :
    ((link.runSteps steps).exchanges answer s = (steps.map link.statement).map (statementSent none) ∧
        ((link.runSteps steps).run answer s).1 = .ok ()) ∨
      ∃ before failing after fault, steps.map link.statement = before ++ failing :: after ∧
        (link.runSteps steps).exchanges answer s =
          before.map (statementSent none) ++ [statementSent (some fault) failing] ∧
        ((link.runSteps steps).run answer s).1 = .error (.database fault) := by
  induction steps generalizing s with
  | nil => exact .inl ⟨rfl, rfl⟩
  | cons step rest ih =>
    have first : link.runSteps (step :: rest) =
        Call.bind (Call.execute (link.stepText step) (step.parameters.map .parameter)) fun _ =>
          link.runSteps rest := rfl
    rw [first, Call.exchanges_bind, Call.run_bind, Call.exchanges_execute, Call.run_execute, List.map_cons]
    cases answer (.ask (.execute (link.stepText step) (step.parameters.map .parameter))) s with
    | mk given s =>
      cases given with
      | error fault => exact .inr ⟨[], link.statement step, rest.map link.statement, fault, rfl, rfl, rfl⟩
      | ok result =>
        simp only [Except.mapError, faultOf, List.cons_append, List.nil_append]
        rcases ih s with ⟨sent, done⟩ | ⟨before, failing, after, fault, split, sent, failed⟩
        · exact .inl ⟨congrArg (List.cons (statementSent none (link.statement step))) sent, done⟩
        · refine .inr ⟨link.statement step :: before, failing, after, fault, ?_, ?_, failed⟩
          · rw [split, List.cons_append]
          · exact congrArg (List.cons (statementSent none (link.statement step))) sent

theorem map_statement_pairs (make : Sql.Parameter → Sql.Parameter → LinkStep) (text : String)
    (made : ∀ main related, link.statement (make main related) = (text, [.parameter main, .parameter related]))
    (id : String) (others : List Json) :
    ((link.pairs (.text id) others).map fun pair => make pair.1 pair.2).map link.statement =
      link.statements text id others := by
  rw [Link.pairs, Link.statements, List.map_flatMap, List.map_flatMap]
  refine congrArg (others.flatMap ·) (funext fun other => ?_)
  cases link.relation.bidirectional <;> simp [made]

theorem map_statement_plan (id : String) (change : LinkChange) :
    (link.plan (.text id) change).map link.statement = link.planned id change := by
  rw [Link.plan, Link.planned, List.map_append,
    map_statement_pairs link .remove link.removeText (fun _ _ => rfl),
    map_statement_pairs link .add link.addText (fun _ _ => rfl)]

/-- A change sends its planned statements in a transaction. -/
theorem change_transacted (id : String) (change : LinkChange) (s : σ) :
    Transacted (link.planned id change) ((link.change id change).exchanges answer s)
      ((link.change id change).run answer s).1 := by
  rw [Link.change, exchanges_transaction, outcome_transaction, ← map_statement_plan]
  cases answerTo answer .start s with
  | mk started s =>
    cases started with
    | error fault => exact .refused fault
    | ok value =>
      have sent := runSteps_sent answer link (link.plan (.text id) change) s
      simp only
      cases ran : (link.runSteps (link.plan (.text id) change)).run answer s with
      | mk outcome s =>
        rw [ran] at sent
        rcases sent with ⟨sent, ended⟩ | ⟨before, failing, after, fault, split, sent, ended⟩
        · rw [sent]
          obtain rfl : outcome = .ok () := ended
          simp only
          cases answerTo answer .commit s with
          | mk committed s =>
            cases committed with
            | ok value => exact .committed
            | error fault => exact .uncommitted fault _
        · rw [sent]
          obtain rfl : outcome = .error (.database fault) := ended
          simpa using Transacted.broken fault (faultOf (answerTo answer .rollback s).1) split

end

/-! ## What the log of a transaction says -/

@[simp] theorem markSent_inj {mark mark' : TransactionMark} {fault fault' : Option DatabaseError} :
    markSent mark fault = markSent mark' fault' ↔ mark = mark' ∧ fault = fault' := by
  simp [markSent]

@[simp] theorem statementSent_inj {fault fault' : Option DatabaseError}
    {statement statement' : String × List Argument} :
    statementSent fault statement = statementSent fault' statement' ↔ fault = fault' ∧ statement = statement' := by
  simp [statementSent, Prod.ext_iff, and_comm]

@[simp] theorem statementSent_fault (fault : Option DatabaseError) (statement : String × List Argument) :
    (statementSent fault statement).fault = fault := rfl

@[simp] theorem markSent_fault (mark : TransactionMark) (fault : Option DatabaseError) :
    (markSent mark fault).fault = fault := rfl

@[simp] theorem markSent_ne_statementSent (mark : TransactionMark) (fault fault' : Option DatabaseError)
    (statement : String × List Argument) : markSent mark fault ≠ statementSent fault' statement := by
  simp [markSent, statementSent]

@[simp] theorem markSent_not_mem (mark : TransactionMark) (fault : Option DatabaseError)
    (statements : List (String × List Argument)) : markSent mark fault ∉ statements.map (statementSent none) := by
  simp [markSent, statementSent]

@[simp] theorem statementsOf_nil : statementsOf [] = [] := rfl

@[simp] theorem statementsOf_append (first second : List Exchange) :
    statementsOf (first ++ second) = statementsOf first ++ statementsOf second :=
  List.filterMap_append

@[simp] theorem statementsOf_mark (mark : TransactionMark) (fault : Option DatabaseError) (rest : List Exchange) :
    statementsOf (markSent mark fault :: rest) = statementsOf rest := rfl

@[simp] theorem statementsOf_statement (statement : String × List Argument) (fault : Option DatabaseError)
    (rest : List Exchange) : statementsOf (statementSent fault statement :: rest) = statement :: statementsOf rest :=
  rfl

@[simp] theorem statementsOf_done (statements : List (String × List Argument)) :
    statementsOf (statements.map (statementSent none)) = statements := by
  induction statements with
  | nil => rfl
  | cons statement rest ih => rw [List.map_cons, statementsOf_statement, ih]

namespace Transacted
variable {planned : List (String × List Argument)} {log : List Exchange} {outcome : Except Error Unit}

theorem starts (sent : Transacted planned log outcome) : ∃ fault rest, log = markSent .start fault :: rest := by
  cases sent <;> exact ⟨_, _, rfl⟩

theorem statementsOf_prefix (sent : Transacted planned log outcome) : statementsOf log <+: planned := by
  cases sent with
  | refused fault => exact List.nil_prefix
  | @broken before failing after fault rollback split => exact ⟨after, by simp [split]⟩
  | uncommitted fault rollback => exact ⟨[], by simp⟩
  | committed => exact ⟨[], by simp⟩

/-- COMMIT is asked for when the transaction began and the whole plan is done. -/
theorem commit_asked_iff (sent : Transacted planned log outcome) :
    (∃ fault, markSent .commit fault ∈ log) ↔
      markSent .start none :: planned.map (statementSent none) <+: log := by
  cases sent with
  | refused fault => simp
  | @broken before failing after fault rollback split =>
    subst split
    simp [List.prefix_append_right_inj]
  | uncommitted fault rollback => simp
  | committed => simp

theorem ok_iff (sent : Transacted planned log outcome) : outcome = .ok () ↔ markSent .commit none ∈ log := by
  cases sent <;> simp

theorem begun_and_done (statements : List (String × List Argument)) :
    ∀ exchange ∈ markSent .start none :: statements.map (statementSent none), exchange.fault = none := by
  rintro exchange (_ | ⟨_, member⟩)
  · rfl
  · obtain ⟨statement, -, rfl⟩ := List.mem_map.mp member
    rfl

/-- What began and was not committed ends with one rollback right behind the only failure, whose cause is the
    outcome. -/
theorem rolled_back (sent : Transacted planned log outcome) (begun : markSent .start none ∈ log)
    (uncommitted : markSent .commit none ∉ log) :
    ∃ before failing fault rollback, log = before ++ [failing, markSent .rollback rollback] ∧
      failing.fault = some fault ∧ outcome = .error (.database fault) ∧
      (∀ exchange ∈ before, exchange.fault = none) ∧
      ∀ fault, markSent .rollback fault ∉ before ++ [failing] := by
  cases sent with
  | refused fault => simp at begun
  | @broken before failing after fault rollback split =>
    refine ⟨markSent .start none :: before.map (statementSent none), statementSent (some fault) failing, fault,
      rollback, rfl, rfl, rfl, begun_and_done before, by simp⟩
  | uncommitted fault rollback =>
    refine ⟨markSent .start none :: planned.map (statementSent none), markSent .commit (some fault), fault,
      rollback, rfl, rfl, rfl, begun_and_done planned, by simp⟩
  | committed => simp at uncommitted

/-- A transaction that does not begin sends nothing else. -/
theorem refused_alone (sent : Transacted planned log outcome) {fault : DatabaseError}
    (refused : markSent .start (some fault) ∈ log) :
    log = [markSent .start (some fault)] ∧ outcome = .error (.database fault) := by
  cases sent with
  | refused fault' =>
    obtain rfl : fault = fault' := by simpa using refused
    exact ⟨rfl, rfl⟩
  | _ => simp at refused

end Transacted

/-! ## Requests for changes -/

section
variable {σ : Type} (answer : (e : Effect) → σ → e.Answer × σ)

theorem run_link (relation : Relation) (s : σ) :
    (Call.link relation).run answer s =
      ((Link.resolve (answer .snapshot s).1 relation).mapError .link, (answer .snapshot s).2) := by
  simp only [Call.link, Call.tables, Call.effect, Call.bind_eq, Call.bind_perform, Call.bind_done, Call.run]
  cases Link.resolve (answer .snapshot s).1 relation <;> rfl

theorem exchanges_link (relation : Relation) (s : σ) : (Call.link relation).exchanges answer s = [] := by
  simp only [Call.link, Call.tables, Call.effect, Call.bind_eq, Call.bind_perform, Call.bind_done,
    Call.exchanges_perform, Effect.exchanges, List.nil_append]
  cases Link.resolve (answer .snapshot s).1 relation <;> rfl

/-- The statement that reads the linked rows. -/
def Link.reading (link : Link) (id : String) : String × List Argument :=
  ((link.relatedRows (.text id)).asJson.text, [.parameter (.text id)])

theorem exchanges_fetch (link : Link) (id : String) (s : σ) :
    ∃ fault, (link.fetch id).exchanges answer s = [statementSent fault (link.reading id)] := by
  refine ⟨faultOf (answer (.ask (.execute (link.reading id).1 (link.reading id).2)) s).1, ?_⟩
  have read : link.fetch id = Call.bind (Call.execute (link.reading id).1 (link.reading id).2) fun set =>
      Call.bind (Call.ofDatabase set.document) fun document => .done (rowsOfDocument document) := rfl
  rw [read, Call.exchanges_bind, Call.exchanges_execute, Call.run_execute]
  cases (answer (.ask (.execute (link.reading id).1 (link.reading id).2)) s).1 with
  | error fault => rfl
  | ok set =>
    simp only [Except.mapError]
    cases set.document <;> rfl

/-- The request for a change sends what the change sends, and when that succeeds reads the linked rows. -/
theorem exchanges_changeRelated (relation : Relation) (id : String) (change : LinkChange) (s : σ) :
    match Link.resolve (answer .snapshot s).1 relation with
    | .error _ => (Http.Answer.changeRelated relation id change).exchanges answer s = []
    | .ok link =>
      match (link.change id change).run answer (answer .snapshot s).2 with
      | (.error _, _) =>
        (Http.Answer.changeRelated relation id change).exchanges answer s =
          (link.change id change).exchanges answer (answer .snapshot s).2
      | (.ok _, _) =>
        ∃ fault, (Http.Answer.changeRelated relation id change).exchanges answer s =
          (link.change id change).exchanges answer (answer .snapshot s).2 ++
            [statementSent fault (link.reading id)] := by
  have steps : Http.Answer.changeRelated relation id change =
      Call.bind (Call.link relation) fun link => Call.bind (link.change id change) fun _ =>
        Call.bind (link.fetch id) fun rows => .done (.many rows) := rfl
  rw [steps, Call.exchanges_bind, exchanges_link, run_link]
  cases Link.resolve (answer .snapshot s).1 relation with
  | error cause => rfl
  | ok link =>
    simp only [Except.mapError, List.nil_append, Call.exchanges_bind]
    cases (link.change id change).run answer (answer .snapshot s).2 with
    | mk outcome s =>
      cases outcome with
      | error cause => simp
      | ok value =>
        obtain ⟨fault, read⟩ := exchanges_fetch answer link id s
        refine ⟨fault, ?_⟩
        simp only [read]
        cases (link.fetch id).run answer s with
        | mk outcome s => cases outcome <;> simp

end

/-- A change of links is one transaction, whatever the database answers. It starts with BEGIN, and what is sent
    behind is a prefix of the plan: removals before additions, each pair with its reverse right behind it. COMMIT
    is asked for when it began and the whole plan is done; the change succeeds when COMMIT does; otherwise one
    rollback follows the failure, whose cause is the answer, or nothing when it did not begin. The request for a
    change reads the linked rows behind a COMMIT that succeeded, and only then. -/
theorem change_sent {σ : Type} (answer : (e : Effect) → σ → e.Answer × σ) (link : Link) (id : String)
    (change : LinkChange) (s : σ) :
    let log := (link.change id change).exchanges answer s
    let outcome := ((link.change id change).run answer s).1
    let planned := link.planned id change
    (∃ fault rest, log = markSent .start fault :: rest) ∧
    statementsOf log <+: planned ∧
    ((∃ fault, markSent .commit fault ∈ log) ↔
      markSent .start none :: planned.map (statementSent none) <+: log) ∧
    (outcome = .ok () ↔ markSent .commit none ∈ log) ∧
    (markSent .start none ∈ log → markSent .commit none ∉ log →
      ∃ before failing fault rollback, log = before ++ [failing, markSent .rollback rollback] ∧
        failing.fault = some fault ∧ outcome = .error (.database fault) ∧
        (∀ exchange ∈ before, exchange.fault = none) ∧
        ∀ fault, markSent .rollback fault ∉ before ++ [failing]) ∧
    (∀ fault, markSent .start (some fault) ∈ log →
      log = [markSent .start (some fault)] ∧ outcome = .error (.database fault)) ∧
    ∀ (relation : Relation) (t : σ),
      let sent := (Http.Answer.changeRelated relation id change).exchanges answer t
      (∀ cause, Link.resolve (answer .snapshot t).1 relation = .error cause → sent = []) ∧
      (Link.resolve (answer .snapshot t).1 relation = .ok link → (answer .snapshot t).2 = s →
        (markSent .commit none ∉ log → sent = log) ∧
        (markSent .commit none ∈ log → ∃ fault, sent = log ++ [statementSent fault (link.reading id)])) := by
  intro log outcome planned
  have sent := change_transacted answer link id change s
  refine ⟨sent.starts, sent.statementsOf_prefix, sent.commit_asked_iff, sent.ok_iff, sent.rolled_back,
    fun fault => sent.refused_alone, ?_⟩
  intro relation t sent_all
  have requested := exchanges_changeRelated answer relation id change t
  refine ⟨?_, ?_⟩
  · intro cause unresolved
    rw [unresolved] at requested
    exact requested
  · intro resolved behind
    rw [resolved, behind] at requested
    rw [← sent.ok_iff]
    cases ran : (link.change id change).run answer s with
    | mk ended s' =>
      simp only [ran] at requested ⊢
      cases ended with
      | error cause => exact ⟨fun _ => requested, by simp⟩
      | ok value => exact ⟨by simp, fun _ => requested⟩

/-- A gateway to the tables of friends, whose database gives the replies. -/
def friendsGateway (replies : List Reply) : World :=
  ⟨.ofList [("people", friends.main), ("friends", friends.join)], .empty, false, ⟨none, replies, []⟩⟩

def refusedFriends : World :=
  friendsGateway [.result ⟨[], [], 1⟩, .refusal "no"]

def servedFriends : World :=
  friendsGateway (List.replicate 12 (.result ⟨[], [], 1⟩))

theorem change_sent_friends :
    let log := (friends.change "ann" annsFriends).exchanges World.answer
    let sent := (Http.Answer.changeRelated friends.relation "ann" annsFriends).exchanges World.answer
    (Link.resolve refusedFriends.tables friends.relation = .ok friends ∧ markSent .start none ∈ log refusedFriends ∧
      markSent .commit none ∉ log refusedFriends) ∧
    (∃ before failing fault rollback, log refusedFriends = before ++ [failing, markSent .rollback rollback] ∧
      failing.fault = some fault) ∧
    sent refusedFriends = log refusedFriends ∧
    (Link.resolve servedFriends.tables friends.relation = .ok friends ∧
      markSent .commit none ∈ log servedFriends) ∧
    ∃ fault, sent servedFriends = log servedFriends ++ [statementSent fault (friends.reading "ann")] := by
  intro log sent
  obtain ⟨-, -, -, failed_iff, rolled_back, -, requested⟩ :=
    change_sent World.answer friends "ann" annsFriends refusedFriends
  obtain ⟨-, -, -, succeeded_iff, -, -, requested'⟩ :=
    change_sent World.answer friends "ann" annsFriends servedFriends
  have failed : ((friends.change "ann" annsFriends).run World.answer refusedFriends).1 =
      .error (.database (.refused "no")) := rfl
  have succeeded : ((friends.change "ann" annsFriends).run World.answer servedFriends).1 = .ok () := rfl
  have begun : markSent .start none ∈ log refusedFriends := .head _
  have uncommitted : markSent .commit none ∉ log refusedFriends := by
    rw [← failed_iff, failed]
    simp
  have committed : markSent .commit none ∈ log servedFriends := succeeded_iff.mp succeeded
  have resolved : Link.resolve refusedFriends.tables friends.relation = .ok friends := rfl
  have resolved' : Link.resolve servedFriends.tables friends.relation = .ok friends := rfl
  obtain ⟨before, failing, fault, rollback, ends, cause, -⟩ := rolled_back begun uncommitted
  have only_sent := ((requested friends.relation refusedFriends).2 resolved rfl).1 uncommitted
  have read_again := ((requested' friends.relation servedFriends).2 resolved' rfl).2 committed
  exact ⟨⟨resolved, begun, uncommitted⟩, ⟨before, failing, fault, rollback, ends, cause⟩, only_sent,
    ⟨resolved', committed⟩, read_again⟩

end TableGateway
