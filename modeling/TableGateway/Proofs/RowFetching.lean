import Mathlib
import TableGateway.Proofs.CastLocality
import TableGateway.Proofs.Exchanges
import TableGateway.Proofs.ParameterPositions
import TableGateway.Rows.Table

/-!
# How rows are fetched

Rows are fetched by one statement, behind at most two questions about the types of its inferred parameters: its
description, and the names of the types that were described (`CastAsked`). The statement itself is sent once, last
and with its own parameters, or not at all when a question fails (`Fetched`); so listing, inserting, updating and
deleting never act before the types are known, and their outcome is that of the statement (`rows_fetched`).
-/
namespace TableGateway

/-! ## Questions for types -/

/-- The question for the names of the first `count` types of a list. -/
def namesAsked (numbers : List Nat) (count : Nat) : Database.Request :=
  .execute typeNamesText [.numbers ((numbers.take count).map Int.ofNat)]

/-- The names in a reply; a type that is not known has none. -/
def namesIn (reply : Except DatabaseError ResultSet) : Except DatabaseError (List (Option String)) :=
  reply.bind fun set => set.allRows.mapM fun row => row.get (.index 0) CellReader.text.orNull

/-- What is asked for the types of the first `count` parameters of a text, and the text that comes out. -/
inductive CastAsked (text : String) (count : Nat) : List Answered → Except Error String → Prop where
  | plain (untyped : count = 0) : CastAsked text count [] (.ok text)
  | undescribed (typed : count ≠ 0) (cause : DatabaseError) :
      CastAsked text count [⟨.describe text, .error cause⟩] (.error (.database cause))
  | untold (typed : count ≠ 0) {described : Description} (untold : described.parameters = none) :
      CastAsked text count [⟨.describe text, .ok described⟩] (.ok text)
  | unnamed (typed : count ≠ 0) {described : Description} {numbers : List Nat}
      (told : described.parameters = some numbers) {reply : Except DatabaseError ResultSet} {cause : DatabaseError}
      (unnamed : namesIn reply = .error cause) :
      CastAsked text count [⟨.describe text, .ok described⟩, ⟨namesAsked numbers count, reply⟩]
        (.error (.database cause))
  | named (typed : count ≠ 0) {described : Description} {numbers : List Nat}
      (told : described.parameters = some numbers) {reply : Except DatabaseError ResultSet}
      {types : List (Option String)} (named : namesIn reply = .ok types) :
      CastAsked text count [⟨.describe text, .ok described⟩, ⟨namesAsked numbers count, reply⟩]
        (.ok (Sql.castReferences text types))

/-- The rows in a reply. -/
def rowsIn (reply : Except DatabaseError ResultSet) : Except Error (List Json) :=
  ((reply.bind ResultSet.document).map rowsOfDocument).mapError .database

/-- What is sent to fetch the rows of a statement that gives them as one document, and the outcome. -/
inductive Fetched (s : Sql.Statement) : List Answered → Except Error (List Json) → Prop where
  | unsent {log : List Answered} {cause : Error} (asked : CastAsked s.text s.inferred log (.error cause)) :
      Fetched s log (.error cause)
  | sent {log : List Answered} {text : String} (asked : CastAsked s.text s.inferred log (.ok text))
      (reply : Except DatabaseError ResultSet) :
      Fetched s (log ++ [⟨.execute text (s.parameters.map .parameter), reply⟩]) (rowsIn reply)

section
variable {σ : Type} (answer : (e : Effect) → σ → e.Answer × σ)

theorem typeNames_eq (numbers : List Nat) (count : Nat) :
    Call.typeNames (numbers.take count) =
      .perform (.ask (namesAsked numbers count)) fun reply => Call.ofDatabase (namesIn reply) :=
  Call.execute_read _ _ _

theorem castAsked (text : String) (count : Nat) (s : σ) :
    CastAsked text count ((Call.castInferred text count).dialogue answer s)
      ((Call.castInferred text count).run answer s).1 := by
  unfold Call.castInferred
  by_cases untyped : count = 0
  · rw [if_pos untyped]
    exact .plain untyped
  · rw [if_neg untyped, Call.bind_eq, Call.dialogue_bind, Call.run_bind, Call.dialogue_describe, Call.run_describe]
    cases answer (.ask (.describe text)) s with
    | mk given s =>
      cases given with
      | error cause => exact .undescribed untyped cause
      | ok described =>
        simp only [Except.mapError]
        cases told : described.parameters with
        | none => exact .untold untyped told
        | some numbers =>
          simp only [typeNames_eq, Call.bind_eq, Call.bind_perform, Call.dialogue_perform, Call.run]
          cases answer (.ask (namesAsked numbers count)) s with
          | mk reply s =>
            simp only [Call.dialogue_bind, Call.run_bind, Call.dialogue_ofDatabase, Call.run_ofDatabase]
            cases named : namesIn reply with
            | error cause => exact .unnamed untyped told named
            | ok types => exact .named untyped told named

theorem fetch_eq (s : Sql.Statement) :
    s.fetch = Call.bind (Call.castInferred s.asJson.text s.inferred) fun text =>
      .perform (.ask (.execute text (s.parameters.map .parameter))) fun reply => Call.ofExcept (rowsIn reply) := by
  refine congrArg (Call.bind _) (funext fun text => ?_)
  refine congrArg (Call.perform (.ask (.execute text (s.parameters.map .parameter)))) (funext fun reply => ?_)
  cases reply with
  | error cause => rfl
  | ok set =>
    change Call.bind (Call.ofDatabase set.document) (fun document => .done (rowsOfDocument document)) =
      Call.ofExcept ((set.document.map rowsOfDocument).mapError .database)
    cases set.document <;> rfl

theorem fetched (made : Sql.Statement) (s : σ) :
    Fetched made.asJson (made.fetch.dialogue answer s) (made.fetch.run answer s).1 := by
  have asked := castAsked answer made.asJson.text made.inferred s
  rw [fetch_eq, Call.dialogue_bind, Call.run_bind]
  cases ran : (Call.castInferred made.asJson.text made.inferred).run answer s with
  | mk outcome s' =>
    rw [ran] at asked
    cases outcome with
    | error cause =>
      rw [List.append_nil]
      exact .unsent asked
    | ok text =>
      simp only [Call.dialogue_perform, Call.run, Call.dialogue_ofExcept, Call.run_ofExcept, List.append_nil]
      exact .sent asked _

end

/-! ## The statement is sent last -/

/-- Holds for requests that run a statement, whatever is known of the types of its parameters. -/
def Sql.Statement.RunBy (s : Sql.Statement) (request : Database.Request) : Prop :=
  ∃ types arguments, request = .execute (Sql.castReferences s.text types) arguments

/-- Holds for questions for the types of a statement that fail for a cause. -/
def Sql.Statement.AskedInVain (s : Sql.Statement) (cause : DatabaseError) (asked : Answered) : Prop :=
  asked = ⟨.describe s.text, .error cause⟩ ∨
    ∃ numbers reply, asked = ⟨namesAsked numbers s.inferred, reply⟩ ∧ namesIn reply = .error cause

/-- The rows that a document stands for. -/
inductive RowsOf : Json → List Json → Prop where
  | array (rows : List Json) : RowsOf (.array rows) rows
  | null : RowsOf .null []
  | single {row : Json} (no_array : ∀ rows, row ≠ .array rows) (not_null : row ≠ .null) : RowsOf row [row]

theorem Sql.castReferences_nil (text : String) : castReferences text [] = text := by
  obtain ⟨segs, cut⟩ := segmentation_exists [] text.toList
  have kept : ∀ seg ∈ segs, Segment.cast [] seg = seg.text := by
    intro seg _
    cases seg with
    | reference digits =>
      have unknown : typeOf? [] digits = none := by
        unfold typeOf?
        split <;> rfl
      simp only [Segment.cast, unknown, Segment.text]
    | _ => rfl
  rw [castReferences_eq, castBehind_of_segmentation cut, List.flatMap_congr kept, cut.1, String.ofList_toList]

/-- Casts leave the start of a statement for rows. -/
theorem Sql.castReferences_jsonText (text : String) (types : List (Option String)) :
    ∃ rest, castReferences (jsonText text) types = jsonHead ++ rest := by
  have kept := castBehind_ordinary (by decide : Ordinary jsonHead.toList) types [] (text ++ jsonTail).toList
  refine ⟨String.ofList (castBehind types ([] ++ jsonHead.toList) (text ++ jsonTail).toList), ?_⟩
  rw [castReferences_eq, jsonText_eq, String.append_assoc, String.toList_append, kept]
  simp

theorem Sql.castReferences_jsonText_ne (text : String) (types : List (Option String)) :
    castReferences (jsonText text) types ≠ typeNamesText := by
  obtain ⟨rest, cast_eq⟩ := castReferences_jsonText text types
  rw [cast_eq]
  intro same
  have first : (jsonHead ++ rest).toList.head? = some 'W' := by
    rw [String.toList_append]
    rfl
  have names_first : typeNamesText.toList.head? = some 'S' := by decide +kernel
  rw [same, names_first] at first
  cases first

namespace Sql.Statement
variable {made : Sql.Statement}

theorem not_runBy_describe (text : String) : ¬ made.RunBy (.describe text) := by
  rintro ⟨_, _, ⟨⟩⟩

theorem not_runBy_namesAsked (numbers : List Nat) (count : Nat) : ¬ made.asJson.RunBy (namesAsked numbers count) := by
  rintro ⟨types, arguments, same⟩
  rw [namesAsked, Database.Request.execute.injEq] at same
  exact castReferences_jsonText_ne made.text types same.1.symm

theorem namesAsked_ne (numbers : List Nat) (count : Nat) (text : String) (parameters : List Sql.Parameter) :
    namesAsked numbers count ≠ .execute text (parameters.map .parameter) := by
  intro same
  rw [namesAsked, Database.Request.execute.injEq] at same
  cases parameters with
  | nil => cases same.2
  | cons parameter rest => cases same.2

end Sql.Statement

theorem rowsOf_iff {document : Json} {rows : List Json} : RowsOf document rows ↔ rowsOfDocument document = rows := by
  constructor
  · rintro (_ | _ | ⟨no_array, not_null⟩)
    · rfl
    · rfl
    · cases document with
      | array rows => exact absurd rfl (no_array rows)
      | null => exact absurd rfl not_null
      | _ => rfl
  · rintro rfl
    cases document with
    | array rows => exact .array rows
    | null => exact .null
    | _ => exact .single (by simp) (by simp)

theorem document_eq_ok_iff {set : ResultSet} {document : Json} :
    set.document = .ok document ↔
      ∃ row rest, set.allRows = row :: rest ∧ row.get (.index 0) .document = .ok document := by
  rw [ResultSet.document, ResultSet.firstRow]
  cases set.allRows with
  | nil => simp [bind, Except.bind]
  | cons row rest => simp [bind, Except.bind]

theorem rowsIn_eq_ok_iff {reply : Except DatabaseError ResultSet} {rows : List Json} :
    rowsIn reply = .ok rows ↔
      ∃ set document, reply = .ok set ∧ set.document = .ok document ∧ RowsOf document rows := by
  cases reply with
  | error cause => simp [rowsIn, Except.bind, Except.map, Except.mapError]
  | ok set =>
    cases given : set.document with
    | error cause => simp [rowsIn, Except.bind, Except.map, Except.mapError, given]
    | ok document => simp [rowsIn, Except.bind, Except.map, Except.mapError, given, rowsOf_iff]

section
variable {made : Sql.Statement} {log : List Answered}

/-! ### The questions -/

theorem CastAsked.entries {text : String} {count : Nat} {outcome : Except Error String}
    (asked : CastAsked text count log outcome) :
    ∀ a ∈ log, (∃ given, a = ⟨.describe text, given⟩) ∨ ∃ numbers reply, a = ⟨namesAsked numbers count, reply⟩ := by
  intro a sent
  cases asked with
  | plain => cases sent
  | undescribed | untold => exact .inl ⟨_, List.mem_singleton.mp sent⟩
  | unnamed | named => exact (List.mem_pair.mp sent).imp (⟨_, ·⟩) (⟨_, _, ·⟩)

theorem CastAsked.not_runBy {text : Except Error String} (asked : CastAsked made.asJson.text made.inferred log text) :
    ∀ a ∈ log, ¬ made.asJson.RunBy a.request := by
  intro a sent
  obtain ⟨given, rfl⟩ | ⟨numbers, reply, rfl⟩ := asked.entries a sent
  · exact Sql.Statement.not_runBy_describe _
  · exact Sql.Statement.not_runBy_namesAsked _ _

/-- The questions run no statement with parameters of a request. -/
theorem CastAsked.ne_execute {text : String} {count : Nat} {outcome : Except Error String}
    (asked : CastAsked text count log outcome) :
    ∀ a ∈ log, ∀ sql (parameters : List Sql.Parameter), a.request ≠ .execute sql (parameters.map .parameter) := by
  intro a sent sql parameters
  obtain ⟨given, rfl⟩ | ⟨numbers, reply, rfl⟩ := asked.entries a sent
  · nofun
  · exact Sql.Statement.namesAsked_ne _ _ _ _

/-- The text that comes out has its references cast, if to no type. -/
theorem CastAsked.eq_castReferences {text sql : String} {count : Nat} (asked : CastAsked text count log (.ok sql)) :
    ∃ types, sql = Sql.castReferences text types := by
  cases asked with
  | plain => exact ⟨[], by rw [Sql.castReferences_nil]⟩
  | untold => exact ⟨[], by rw [Sql.castReferences_nil]⟩
  | named => exact ⟨_, rfl⟩

theorem CastAsked.runBy {text : String} (asked : CastAsked made.asJson.text made.inferred log (.ok text))
    (arguments : List Argument) : made.asJson.RunBy (.execute text arguments) := by
  obtain ⟨types, rfl⟩ := asked.eq_castReferences
  exact ⟨types, arguments, rfl⟩

theorem names_ne_describe (numbers : List Nat) (count : Nat) (text : String) (reply) (given) :
    (⟨namesAsked numbers count, reply⟩ : Answered) ≠ ⟨.describe text, given⟩ := by
  intro same
  have requests : namesAsked numbers count = .describe text := congrArg Answered.request same
  rw [namesAsked] at requests
  cases requests

theorem reply_eq {numbers numbers' : List Nat} {count count' : Nat} {reply reply' : Except DatabaseError ResultSet}
    (same : (⟨namesAsked numbers count, reply⟩ : Answered) = ⟨namesAsked numbers' count', reply'⟩) :
    reply = reply' := by
  simp only [namesAsked, Answered.mk.injEq] at same
  exact eq_of_heq same.2

theorem CastAsked.eq_error {text : Except Error String} (asked : CastAsked made.asJson.text made.inferred log text)
    {a : Answered} (sent : a ∈ log) {cause : DatabaseError} (inVain : made.asJson.AskedInVain cause a) :
    text = .error (.database cause) := by
  obtain rfl | ⟨numbers, reply, rfl, failed⟩ := inVain
  · cases asked <;> simp_all [namesAsked]
  · cases asked with
    | plain => cases sent
    | undescribed => exact absurd (List.mem_singleton.mp sent) (names_ne_describe _ _ _ _ _)
    | untold => exact absurd (List.mem_singleton.mp sent) (names_ne_describe _ _ _ _ _)
    | unnamed _ _ failed' =>
      rcases List.mem_pair.mp sent with same | same
      · exact absurd same (names_ne_describe _ _ _ _ _)
      · rw [reply_eq same, failed'] at failed
        cases failed
        rfl
    | named _ _ named =>
      rcases List.mem_pair.mp sent with same | same
      · exact absurd same (names_ne_describe _ _ _ _ _)
      · rw [reply_eq same, named] at failed
        cases failed

/-! ### The statement -/

theorem Fetched.last {outcome : Except Error (List Json)} (fetched : Fetched made.asJson log outcome)
    {before after : List Answered} {a : Answered} (parts : log = before ++ a :: after)
    (runs : made.asJson.RunBy a.request) :
    after = [] ∧ ∃ text, a.request = .execute text (made.parameters.map .parameter) := by
  cases fetched with
  | unsent asked => exact absurd runs (asked.not_runBy a (by simp [parts]))
  | sent asked reply =>
    obtain ⟨rfl, -, rfl⟩ | ⟨between, -, earlier⟩ := concat_parts parts
    · exact ⟨rfl, _, rfl⟩
    · exact absurd runs (asked.not_runBy a (by simp [earlier]))

theorem Fetched.eq_error {outcome : Except Error (List Json)} (fetched : Fetched made.asJson log outcome)
    {a : Answered} (sent : a ∈ log) {cause : DatabaseError} (inVain : made.asJson.AskedInVain cause a) :
    outcome = .error (.database cause) ∧ ∀ b ∈ log, ¬ made.asJson.RunBy b.request := by
  cases fetched with
  | unsent asked =>
    cases asked.eq_error sent inVain
    exact ⟨rfl, asked.not_runBy⟩
  | sent asked reply =>
    exfalso
    rcases List.mem_append.mp sent with sent | sent
    · cases asked.eq_error sent inVain
    · cases List.mem_singleton.mp sent
      obtain same | ⟨numbers, names, same, -⟩ := inVain
      · cases same
      · exact Sql.Statement.namesAsked_ne _ _ _ _ (congrArg Answered.request same).symm

theorem Fetched.eq_ok_iff {outcome : Except Error (List Json)} (fetched : Fetched made.asJson log outcome)
    (rows : List Json) :
    outcome = .ok rows ↔
      ∃ before text set row rest document,
        log = before ++ [⟨.execute text (made.parameters.map .parameter), .ok set⟩] ∧
        set.allRows = row :: rest ∧ row.get (.index 0) .document = .ok document ∧ RowsOf document rows := by
  cases fetched with
  | unsent asked =>
    constructor
    · rintro ⟨⟩
    · rintro ⟨before, text, set, row, rest, document, rfl, -⟩
      exact absurd rfl (asked.ne_execute _ (List.mem_append_right _ (.head _)) text made.parameters)
  | sent asked reply =>
    rw [rowsIn_eq_ok_iff]
    constructor
    · rintro ⟨set, document, rfl, decoded, rows_of⟩
      obtain ⟨row, rest, first, cell⟩ := document_eq_ok_iff.mp decoded
      exact ⟨_, _, set, row, rest, document, rfl, first, cell, rows_of⟩
    · rintro ⟨before, text, set, row, rest, document, parts, first, cell, rows_of⟩
      obtain ⟨-, same⟩ := List.append_inj' parts rfl
      cases same
      exact ⟨set, document, rfl, document_eq_ok_iff.mpr ⟨row, rest, first, cell⟩, rows_of⟩

end

/-- Holds for requests that run a text or ask for its description. -/
def Carries (text : String) (request : Database.Request) : Prop :=
  request = .describe text ∨ ∃ arguments, request = .execute text arguments

/-- Every request of a fetch asks for names, or carries the statement with its references cast. -/
theorem Fetched.requests {made : Sql.Statement} {log : List Answered} {outcome : Except Error (List Json)}
    (fetched : Fetched made.asJson log outcome) :
    ∀ a ∈ log, (∃ numbers count, a.request = namesAsked numbers count) ∨
      ∃ types, Carries (Sql.castReferences made.asJson.text types) a.request := by
  intro a sent
  have asks {text : Except Error String} {log : List Answered}
      (asked : CastAsked made.asJson.text made.asJson.inferred log text) (sent : a ∈ log) :
      (∃ numbers count, a.request = namesAsked numbers count) ∨
        ∃ types, Carries (Sql.castReferences made.asJson.text types) a.request := by
    obtain ⟨given, rfl⟩ | ⟨numbers, reply, rfl⟩ := asked.entries a sent
    · exact .inr ⟨[], .inl (by rw [Sql.castReferences_nil])⟩
    · exact .inl ⟨numbers, _, rfl⟩
  cases fetched with
  | unsent asked => exact asks asked sent
  | sent asked reply =>
    obtain sent | sent := List.mem_append.mp sent
    · exact asks asked sent
    · obtain rfl := List.mem_singleton.mp sent
      obtain ⟨types, arguments, runs⟩ := asked.runBy (made.parameters.map .parameter)
      exact .inr ⟨types, .inr ⟨arguments, runs⟩⟩

theorem Fetched.of_typed {s : Sql.Statement} {log : List Answered} {outcome : Except Error (List Json)}
    (fetched : Fetched s log outcome) (typed : s.inferred = 0) :
    ∃ reply, log = [⟨.execute s.text (s.parameters.map .parameter), reply⟩] := by
  cases fetched with
  | unsent asked => cases asked <;> contradiction
  | sent asked reply =>
    cases asked with
    | plain => exact ⟨reply, rfl⟩
    | _ => contradiction

/-! ## Requests for the rows of a table -/

/-- The arguments of the expression that restricts rows, which a blank one does not. -/
def Filter.arguments : Filter → List String
  | .expression e => if isBlankText e.statement then [] else e.arguments
  | _ => []

theorem Filter.inferred_condition (filter : Filter) (t : Table) :
    (filter.condition t).inferred = filter.arguments.length := by
  cases filter with
  | none => rfl
  | expression e =>
    rw [Filter.condition, Expression.condition, Filter.arguments]
    split <;> rfl
  | search text columns =>
    rw [Filter.condition]
    split <;> rfl

/-- A request for the rows of a table. -/
inductive RowsRequest where
  | list (listing : Listing)
  | insert (payload : Payload)
  | update (filter : Filter) (payload : Payload)
  | delete (filter : Filter)

namespace RowsRequest

/-- The statement of a request, unless it is refused. -/
def statement (t : Table) : RowsRequest → Except StatementError Sql.Statement
  | list listing => .ok (Sql.select t listing)
  | insert payload => Sql.insert t payload
  | update filter payload => Sql.update t filter payload
  | delete filter => Sql.delete t filter

/-- The call for a request. -/
def call (t : Table) : RowsRequest → Call (List Json)
  | list listing => t.list listing
  | insert payload => t.insert payload
  | update filter payload => t.update filter payload
  | delete filter => t.delete filter

/-- The arguments of the expression of a request. -/
def arguments : RowsRequest → List String
  | list listing => listing.filter.arguments
  | insert _ => []
  | update filter _ => filter.arguments
  | delete filter => filter.arguments

variable {t : Table} {request : RowsRequest} {made : Sql.Statement}

theorem call_eq (passes : request.statement t = .ok made) : request.call t = made.fetch := by
  have fetches (given : Except StatementError Sql.Statement) (ok : given = .ok made) :
      Call.bind (Call.ofStatement given) Sql.Statement.fetch = made.fetch := by
    rw [ok]
    rfl
  cases request with
  | list listing =>
    cases passes
    rfl
  | insert payload => exact fetches _ passes
  | update filter payload => exact fetches _ passes
  | delete filter => exact fetches _ passes

theorem inferred_eq (passes : request.statement t = .ok made) : made.inferred = request.arguments.length := by
  cases request with
  | list listing =>
    cases passes
    exact listing.filter.inferred_condition t
  | insert payload =>
    simp only [statement, Sql.insert] at passes
    split at passes <;> cases passes
    rfl
  | update filter payload =>
    simp only [statement, Sql.update] at passes
    split at passes <;> cases passes
    exact filter.inferred_condition t
  | delete filter =>
    simp only [statement, Sql.delete] at passes
    split at passes <;> cases passes
    exact filter.inferred_condition t

end RowsRequest

/-- The rows of a table are fetched by one statement, sent at most once, last and with its own parameters, behind
    the questions for the types of the request's arguments. It is not sent when a question fails, with which the
    request fails too, and the rows are those of the first cell that it gives. -/
theorem rows_fetched (t : Table) (request : RowsRequest) {made : Sql.Statement}
    (passes : request.statement t = .ok made) {σ : Type} (answer : (e : Effect) → σ → e.Answer × σ) (s : σ) :
    let log := (request.call t).dialogue answer s
    let outcome := ((request.call t).run answer s).1
    made.inferred = request.arguments.length ∧
    Fetched made.asJson log outcome ∧
    (∀ before a after, log = before ++ a :: after → made.asJson.RunBy a.request →
      after = [] ∧ ∃ text, a.request = .execute text (made.parameters.map .parameter)) ∧
    (∀ a ∈ log, ∀ cause, made.asJson.AskedInVain cause a →
      outcome = .error (.database cause) ∧ ∀ b ∈ log, ¬ made.asJson.RunBy b.request) ∧
    ∀ rows, outcome = .ok rows ↔
      ∃ before text set row rest document,
        log = before ++ [⟨.execute text (made.parameters.map .parameter), .ok set⟩] ∧
        set.allRows = row :: rest ∧ row.get (.index 0) .document = .ok document ∧ RowsOf document rows := by
  intro log outcome
  have fetched : Fetched made.asJson log outcome := by
    simp only [log, outcome, RowsRequest.call_eq passes]
    exact fetched answer made s
  exact ⟨RowsRequest.inferred_eq passes, fetched, fun _ _ _ parts runs => fetched.last parts runs,
    fun _ sent _ inVain => fetched.eq_error sent inVain, fetched.eq_ok_iff⟩

def oneDeletion : RowsRequest :=
  .delete (.expression ⟨"id = $1", ["7"]⟩)

def scriptedWorld (replies : List Reply) : World :=
  ⟨.empty, .empty, false, ⟨none, replies, []⟩⟩

/-- A database that does not describe the deletion. -/
def refusedDeletion : World :=
  scriptedWorld [.noDescription "no"]

/-- A database that describes the deletion, names the type of its parameter, and gives the row that it deleted. -/
def servedDeletion : World :=
  scriptedWorld [.description ⟨some [23], ["coalesce"]⟩,
    .result ⟨[⟨"format_type", "TEXT"⟩], [[some [105, 110, 116]]], 1⟩,
    .result ⟨[⟨"coalesce", "JSON"⟩], [[some [91, 49, 93]]], 1⟩]

theorem rows_fetched_orders :
    ∃ made : Sql.Statement, oneDeletion.statement Sql.orders = .ok made ∧ made.parameters = [.text "7"] ∧
      made.inferred = 1 ∧
      ((oneDeletion.call Sql.orders).run World.answer refusedDeletion).1 = .error (.database (.refused "no")) ∧
      (∀ a ∈ (oneDeletion.call Sql.orders).dialogue World.answer refusedDeletion, ¬ made.asJson.RunBy a.request) ∧
      ∃ before text set, (oneDeletion.call Sql.orders).dialogue World.answer servedDeletion =
        before ++ [⟨.execute text [.parameter (.text "7")], .ok set⟩] := by
  have passes : oneDeletion.statement Sql.orders =
      .ok ⟨"DELETE FROM \x22public\x22.\x22orders\x22 WHERE id = $1 RETURNING *", [.text "7"], 1⟩ := by rfl
  obtain ⟨inferred, -, -, failed, -⟩ := rows_fetched Sql.orders oneDeletion passes World.answer refusedDeletion
  obtain ⟨-, -, -, -, succeeded⟩ := rows_fetched Sql.orders oneDeletion passes World.answer servedDeletion
  obtain ⟨outcome, unsent⟩ := failed _ (.head _) (.refused "no") (.inl rfl)
  have succeeds : ((oneDeletion.call Sql.orders).run World.answer servedDeletion).1.isOk = true := by decide +kernel
  cases given : ((oneDeletion.call Sql.orders).run World.answer servedDeletion).1 with
  | error cause =>
    rw [given] at succeeds
    cases succeeds
  | ok rows =>
    obtain ⟨before, text, set, -, -, -, parts, -⟩ := (succeeded rows).mp given
    exact ⟨_, passes, rfl, inferred, outcome, unsent, before, text, set, parts⟩

end TableGateway
