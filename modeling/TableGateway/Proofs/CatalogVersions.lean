import Mathlib
import TableGateway.Proofs.CatalogReload

/-!
# Versions of the published tables

The versions of the catalog only increase: a clock tells the one of each turn of a run. A reload reads the columns of
all tables in one turn, and what it publishes is of the version of that turn (`OfVersion`). A ledger keeps, for each
caller, the turn in which it last asked the database, and for the published tables the turn in which their columns
were asked for (`Ledger`). Nothing keeps a slow reload from publishing after one that asked later, so the published
tables may go back to an older version. They do so if and only if a reload is overtaken in this way
(`versions_kept_iff`).
-/
namespace TableGateway
variable {ι : Type}

/-- A question for the columns of tables. -/
abbrev Event.columns (schema : String) (i : ι) (names : List String) (reply : Except DatabaseError ResultSet) :
    Event ι :=
  ⟨i, .ask (columnsAsked schema names), reply⟩

abbrev Event.publication (i : ι) (tables : Tables) : Event ι := ⟨i, .publish tables, ()⟩

/-- Holds when one caller asks for the columns, and another one does so after it, but publishes before it. -/
def Overtaken (schema : String) (trace : List (Event ι)) : Prop :=
  ∃ slow fast names names' reply reply' tables tables',
    [.columns schema slow names reply, .columns schema fast names' reply', .publication fast tables',
      .publication slow tables].Sublist trace

def Event.publishes (event : Event ι) : Bool :=
  match event.effect with
  | .publish _ => true
  | _ => false

/-- How many turns have passed, in which of them each caller last asked, and in which the columns of the published
    tables were asked for; the start is turn zero. -/
structure Ledger (ι : Type) where
  turns : ℕ
  asked : ι → ℕ
  published : ℕ

variable [DecidableEq ι]

namespace Ledger

def start : Ledger ι := ⟨0, fun _ => 0, 0⟩

def after (ledger : Ledger ι) (event : Event ι) : Ledger ι where
  turns := ledger.turns + 1
  asked :=
    match event.effect with
    | .ask _ => Function.update ledger.asked event.caller (ledger.turns + 1)
    | _ => ledger.asked
  published :=
    match event.effect with
    | .publish _ => ledger.asked event.caller
    | _ => ledger.published

/-- The ledger behind a run. -/
def of (trace : List (Event ι)) : Ledger ι :=
  trace.foldl after start

end Ledger

/-- The version of what is published behind a run. -/
def versionPublished (clock : ℕ → ℕ) (trace : List (Event ι)) : ℕ :=
  clock (Ledger.of trace).published

/-- Tables, and the version of the catalog that they show: the initial ones that of the start, and others that of the
    turn in which their columns were asked for. -/
inductive OfVersion (schema : String) (included : List String) (clock : ℕ → ℕ) (initial : Tables)
    (trace : List (Event ι)) : Tables → ℕ → Prop where
  | initial : OfVersion schema included clock initial trace initial (clock 0)
  | loaded {before after : List (Event ι)} {i : ι} {names : List String} {set : ResultSet} {tables : Tables}
      (parts : trace = before ++ .columns schema i names (.ok set) :: after)
      (loads : Loads schema included (actsOf i before ++ [asked (columnsAsked schema names) (.ok set)]) tables) :
      OfVersion schema included clock initial trace tables (clock (before.length + 1))

/-! ## What one caller did -/

section
variable {i : ι}

theorem actsOf_append (i : ι) (earlier later : List (Event ι)) :
    actsOf i (earlier ++ later) = actsOf i earlier ++ actsOf i later := by
  simp [actsOf]

theorem actsOf_cons_self (i : ι) (e : Effect) (answer : e.Answer) (later : List (Event ι)) :
    actsOf i (⟨i, e, answer⟩ :: later) = ⟨e, answer⟩ :: actsOf i later := by
  simp [actsOf, Event.act]

theorem exists_last_act {trace : List (Event ι)} {acts : List Act} {e : Effect} {answer : e.Answer}
    (last : actsOf i trace = acts ++ [⟨e, answer⟩]) :
    ∃ before after, trace = before ++ ⟨i, e, answer⟩ :: after ∧ actsOf i before = acts ∧ actsOf i after = [] := by
  induction trace using List.reverseRecOn with
  | nil => simp [actsOf] at last
  | append_singleton trace event ih =>
    rw [actsOf_concat] at last
    by_cases own : event.caller = i
    · obtain ⟨caller, e', answer'⟩ := event
      subst own
      rw [if_pos rfl] at last
      obtain ⟨earlier, same⟩ := List.append_inj' last rfl
      cases same
      exact ⟨trace, [], rfl, earlier, rfl⟩
    · rw [if_neg own, List.append_nil] at last
      obtain ⟨before, after, rfl, earlier, silent⟩ := ih last
      exact ⟨before, after ++ [event], by simp, earlier, by rw [actsOf_concat, silent, if_neg own, List.append_nil]⟩

end

namespace Loads
variable {schema : String} {included : List String} {tables : Tables}

theorem columns_last {questions : List Act} (loads : Loads schema included questions tables) :
    ∃ first names set, questions = first ++ [asked (columnsAsked schema names) (.ok set)] := by
  cases loads with
  | included => exact ⟨[], _, _, rfl⟩
  | listed => exact ⟨[_], _, _, rfl⟩

theorem columns_once {first later : List Act} {names : List String} {reply : (columnsAsked schema names).Answer}
    (loads : Loads schema included (first ++ asked (columnsAsked schema names) reply :: later) tables) :
    later = [] := by
  generalize parts : first ++ asked (columnsAsked schema names) reply :: later = questions at loads
  cases loads with
  | included =>
    obtain _ | ⟨act, first⟩ := first
    · exact (List.cons.inj parts).2
    · simp at parts
  | listed =>
    obtain _ | ⟨act, _ | ⟨act', first⟩⟩ := first
    · -- The question for the names of the tables is another one.
      have same := congrArg Act.effect (List.cons.inj parts).1
      simp [asked, columnsAsked, baseTablesAsked] at same
    · exact (List.cons.inj (List.cons.inj parts).2).2
    · simp at parts

end Loads

/-! ## The ledger -/

namespace Ledger
variable {i : ι}

theorem of_concat (trace : List (Event ι)) (event : Event ι) : of (trace ++ [event]) = (of trace).after event := by
  simp [of]

theorem turns_eq (trace : List (Event ι)) : (of trace).turns = trace.length := by
  induction trace using List.reverseRecOn with
  | nil => rfl
  | append_singleton trace event ih =>
    rw [of_concat, List.length_append, ← ih]
    rfl

theorem asked_append {earlier later : List (Event ι)} (silent : actsOf i later = []) :
    (of (earlier ++ later)).asked i = (of earlier).asked i := by
  induction later using List.reverseRecOn with
  | nil => rw [List.append_nil]
  | append_singleton later event ih =>
    rw [actsOf_concat] at silent
    obtain ⟨silent, other⟩ := List.append_eq_nil_iff.mp silent
    have other : event.caller ≠ i := fun own => by simp [own] at other
    rw [← List.append_assoc, of_concat, ← ih silent]
    obtain ⟨caller, e, answer⟩ := event
    cases e with
    | ask request => exact Function.update_of_ne other.symm ..
    | _ => rfl

theorem asked_question {before between : List (Event ι)} {request : Database.Request} {reply : request.Answer}
    (silent : actsOf i between = []) :
    (of (before ++ ⟨i, .ask request, reply⟩ :: between)).asked i = before.length + 1 := by
  rw [List.append_cons, asked_append silent, of_concat, ← turns_eq]
  exact Function.update_self ..

/-- What is published is what was there at the start, or what was published last. -/
theorem published_cases (trace : List (Event ι)) :
    ((of trace).published = 0 ∧ ∀ initial, lastPublished initial trace = initial) ∨
      ∃ before i tables after, trace = before ++ .publication i tables :: after ∧
        (of trace).published = (of before).asked i ∧ ∀ initial, lastPublished initial trace = tables := by
  induction trace using List.reverseRecOn with
  | nil => exact .inl ⟨rfl, fun _ => rfl⟩
  | append_singleton trace event ih =>
    obtain ⟨i, e, answer⟩ := event
    simp only [of_concat, lastPublished_concat]
    cases e with
    | publish tables => exact .inr ⟨trace, i, tables, [], rfl, rfl, fun _ => rfl⟩
    | _ =>
      refine ih.imp_right ?_
      rintro ⟨before, j, tables, after, rfl, published⟩
      exact ⟨before, j, tables, _, List.append_assoc .., published⟩

end Ledger

/-! ## Reloads that are overtaken -/

theorem cons_sublist_iff_append {α : Type} {a : α} {l l' : List α} :
    (a :: l).Sublist l' ↔ ∃ before after, l' = before ++ a :: after ∧ l.Sublist after := by
  rw [List.cons_sublist_iff]
  constructor
  · rintro ⟨first, second, rfl, member, rest⟩
    obtain ⟨before, between, rfl⟩ := List.append_of_mem member
    exact ⟨before, between ++ second, by simp, rest.trans (List.sublist_append_right ..)⟩
  · rintro ⟨before, after, rfl, rest⟩
    exact ⟨before ++ [a], after, by simp, by simp, rest⟩

section
variable {schema : String} {included : List String} {tasks : ι → CatalogTask} {initial : Tables}
  {trace : List (Event ι)} {pool : Pool ι Tables Seen}

omit [DecidableEq ι] in
theorem overtaken_iff :
    Overtaken schema trace ↔ ∃ slow fast names names' reply reply' tables tables',
      ∃ before between between' between'' after : List (Event ι),
        trace = before ++ Event.columns schema slow names reply :: (between ++ Event.columns schema fast names' reply' ::
          (between' ++ Event.publication fast tables' :: (between'' ++ Event.publication slow tables :: after))) := by
  constructor
  · rintro ⟨slow, fast, names, names', reply, reply', tables, tables', sublist⟩
    obtain ⟨before, _, rfl, first⟩ := cons_sublist_iff_append.mp sublist
    obtain ⟨between, _, rfl, second⟩ := cons_sublist_iff_append.mp first
    obtain ⟨between', _, rfl, third⟩ := cons_sublist_iff_append.mp second
    obtain ⟨between'', after, rfl, -⟩ := cons_sublist_iff_append.mp third
    exact ⟨slow, fast, names, names', reply, reply', tables, tables', before, between, between', between'', after, rfl⟩
  · rintro ⟨slow, fast, names, names', reply, reply', tables, tables', before, between, between', between'', after, rfl⟩
    refine ⟨slow, fast, names, names', reply, reply', tables, tables', ?_⟩
    refine cons_sublist_iff_append.mpr ⟨before, _, rfl, ?_⟩
    refine cons_sublist_iff_append.mpr ⟨between, _, rfl, ?_⟩
    refine cons_sublist_iff_append.mpr ⟨between', _, rfl, ?_⟩
    exact cons_sublist_iff_append.mpr ⟨between'', after, rfl, List.nil_sublist after⟩

omit [DecidableEq ι] in
theorem two_le_of_overtaken (overtaken : Overtaken schema trace) : 2 ≤ trace.countP Event.publishes := by
  obtain ⟨slow, fast, names, names', reply, reply', tables, tables', sublist⟩ := overtaken
  exact sublist.countP_le (p := Event.publishes)

variable (run : Pool.Run publishing ⟨initial, fun i => (tasks i).call schema included⟩ trace pool)
include run

/-- What a caller did before it published tables is to load them. -/
theorem loads_of_published {before after : List (Event ι)} {i : ι} {tables : Tables}
    (parts : trace = before ++ .publication i tables :: after) : Loads schema included (actsOf i before) tables := by
  induction run generalizing after with
  | start => simp at parts
  | step run turn ih =>
    obtain ⟨rfl, rfl, rfl⟩ | ⟨after, -, earlier⟩ := concat_parts parts
    · -- The publication is the last act of its caller so far, and what it did up to it is told by `Reloading`.
      have run := run.step turn
      have task := (loadedBy_of_published run (List.mem_append_right _ (.head _))).1
      have reloading := reloading run task
      rw [actsOf_append, actsOf_cons_self] at reloading
      generalize acts_eq : actsOf i _ ++ _ = acts at reloading
      generalize Pool.calls _ i = rest at reloading
      cases reloading with
      | asking asks unfinished =>
        obtain ⟨request, same⟩ := asks ⟨.publish tables, ()⟩ (by simp [← acts_eq])
        cases same
      | published loads =>
        obtain ⟨rfl, same⟩ := List.append_inj' acts_eq rfl
        cases same
        exact loads
      | ended loads seen =>
        obtain ⟨-, same⟩ := List.append_inj' (acts_eq.trans (List.append_cons ..)) rfl
        cases same
    · exact ih earlier

/-- What a caller published it asked for in one turn, and it asked nothing after it. -/
theorem question_of_published {before after : List (Event ι)} {i : ι} {tables : Tables}
    (parts : trace = before ++ .publication i tables :: after) :
    ∃ earlier names set between,
      before = earlier ++ .columns schema i names (.ok set) :: between ∧ actsOf i between = [] ∧
        Loads schema included (actsOf i earlier ++ [asked (columnsAsked schema names) (.ok set)]) tables := by
  have loads := loads_of_published run parts
  obtain ⟨first, names, set, last⟩ := loads.columns_last
  obtain ⟨earlier, between, split, rfl, silent⟩ := exists_last_act last
  exact ⟨earlier, names, set, between, split, silent, last ▸ loads⟩

/-- A publication enters the turn of any question for the columns that its caller asked. -/
theorem published_of_question {i : ι} {names : List String} {reply : Except DatabaseError ResultSet} {tables : Tables}
    (before between after : List (Event ι))
    (parts : trace = (before ++ .columns schema i names reply :: between) ++ .publication i tables :: after) :
    (Ledger.of (trace.take ((before ++ .columns schema i names reply :: between).length + 1))).published =
      before.length + 1 := by
  have acts : actsOf i (before ++ .columns schema i names reply :: between) =
      actsOf i before ++ asked (columnsAsked schema names) reply :: actsOf i between :=
    (actsOf_append ..).trans (congrArg _ (actsOf_cons_self ..))
  have loads := acts ▸ loads_of_published run parts
  have taken : trace.take ((before ++ .columns schema i names reply :: between).length + 1) =
      before ++ .columns schema i names reply :: between ++ [.publication i tables] := by
    rw [parts, List.take_length_add_append]
    rfl
  rw [taken, Ledger.of_concat]
  exact Ledger.asked_question loads.columns_once

/-- The ledger tells the turn in which the columns of the published tables were asked for, if they are not the initial
    ones. -/
theorem published_origin {before after : List (Event ι)} (parts : trace = before ++ after) :
    ((Ledger.of before).published = 0 ∧ lastPublished initial before = initial) ∨
      ∃ earlier i names set between later,
        before = earlier ++ .columns schema i names (.ok set) :: between ++
          .publication i (lastPublished initial before) :: later ∧
        (Ledger.of before).published = earlier.length + 1 ∧
        Loads schema included (actsOf i earlier ++ [asked (columnsAsked schema names) (.ok set)])
          (lastPublished initial before) := by
  obtain ⟨at_start, unchanged⟩ | ⟨first, i, tables, later, rfl, published, last⟩ := Ledger.published_cases before
  · exact .inl ⟨at_start, unchanged initial⟩
  · rw [last initial]
    rw [List.append_assoc] at parts
    obtain ⟨earlier, names, set, between, rfl, silent, loads⟩ := question_of_published run parts
    exact .inr ⟨earlier, i, names, set, between, later, rfl, published.trans (Ledger.asked_question silent), loads⟩

theorem lastPublished_ofVersion (clock : ℕ → ℕ) {before after : List (Event ι)} (parts : trace = before ++ after) :
    OfVersion schema included clock initial trace (lastPublished initial before) (versionPublished clock before) := by
  obtain ⟨at_start, unchanged⟩ | ⟨earlier, i, names, set, between, later, split, published, loads⟩ :=
    published_origin run parts
  · rw [versionPublished, at_start, unchanged]
    exact .initial
  · rw [versionPublished, published]
    generalize lastPublished initial before = tables at split loads ⊢
    have parts : trace = earlier ++ .columns schema i names (.ok set) ::
        (between ++ .publication i tables :: later ++ after) := by
      rw [parts, split]
      simp
    exact .loaded parts loads

/-- A publication takes the ledger back only where it is overtaken. -/
theorem published_le_asked (kept : ¬ Overtaken schema trace) {before after : List (Event ι)} {i : ι} {tables : Tables}
    (parts : trace = before ++ .publication i tables :: after) :
    (Ledger.of before).published ≤ (Ledger.of before).asked i := by
  obtain ⟨at_start, -⟩ | ⟨earlier', j, names', set', between', later, split', published, -⟩ :=
    published_origin run parts
  · omega
  obtain ⟨earlier, names, set, between, split, silent, -⟩ := question_of_published run parts
  have asked := split ▸ Ledger.asked_question silent
  by_contra passed
  have behind : earlier.length < earlier'.length := by omega
  -- What was published was asked for behind the own question.
  obtain ⟨middle, rfl⟩ : earlier ++ [.columns schema i names (.ok set)] <+: earlier' :=
    List.prefix_of_prefix_length_le ⟨between, (List.append_cons ..).symm.trans split.symm⟩
      ⟨_, (List.append_assoc ..).symm.trans split'.symm⟩ (by simpa using behind)
  refine kept (overtaken_iff.mpr ⟨i, j, names, names', .ok set, .ok set', tables, lastPublished initial before,
    earlier, middle, between', later, after, parts.trans ?_⟩)
  generalize lastPublished initial before = published at split'
  rw [split']
  simp

theorem published_monotone (kept : ¬ Overtaken schema trace) :
    Monotone fun turns => (Ledger.of (trace.take turns)).published := by
  refine monotone_nat_of_le_succ fun turns => ?_
  rw [List.take_add]
  cases rest : trace.drop turns with
  | nil => rw [List.take_nil, List.append_nil]
  | cons event later =>
    have parts : trace = trace.take turns ++ event :: later := by rw [← rest, List.take_append_drop]
    rw [List.take_succ_cons, List.take_zero, Ledger.of_concat]
    obtain ⟨i, e, answer⟩ := event
    cases e with
    | publish tables => exact published_le_asked run kept parts
    | _ => exact le_rfl

/-- Where a reload is overtaken, the catalog may change between the two questions, and then what is published goes
    back to the older version. -/
theorem goes_back_of_overtaken (overtaken : Overtaken schema trace) :
    ∃ clock, Monotone clock ∧ ¬ Monotone fun turns => versionPublished clock (trace.take turns) := by
  obtain ⟨slow, fast, names, names', reply, reply', tables, tables', before, between, between', between'', after,
    parts⟩ := overtaken_iff.mp overtaken
  have parts_fast : trace = (before ++ .columns schema slow names reply :: between ++
      .columns schema fast names' reply' :: between') ++
        .publication fast tables' :: (between'' ++ .publication slow tables :: after) := parts.trans (by simp)
  have parts_slow : trace = (before ++ .columns schema slow names reply :: (between ++
      .columns schema fast names' reply' :: (between' ++ .publication fast tables' :: between''))) ++
        .publication slow tables :: after := parts.trans (by simp)
  have fresh := published_of_question run _ _ _ parts_fast
  have stale := published_of_question run _ _ _ parts_slow
  -- The catalog changes right behind the question of the slow reload.
  refine ⟨fun turn => if turn ≤ before.length + 1 then 0 else 1, ?_, fun monotone => ?_⟩
  · intro turn turn' le
    dsimp only
    split_ifs <;> omega
  · have later : (before ++ .columns schema slow names reply :: between ++
        .columns schema fast names' reply' :: between').length + 1 ≤
        (before ++ .columns schema slow names reply :: (between ++ .columns schema fast names' reply' ::
          (between' ++ .publication fast tables' :: between''))).length + 1 := by
      simp only [List.length_append, List.length_cons]
      omega
    have kept := monotone later
    simp only [versionPublished, fresh, stale] at kept
    simp at kept

end

omit [DecidableEq ι] in
theorem le_of_isPrefix {trace : List (Event ι)} {version : List (Event ι) → ℕ}
    (monotone : Monotone fun turns => version (trace.take turns)) {earlier later : List (Event ι)}
    (sooner : earlier <+: later) (passed : later <+: trace) :
    version earlier ≤ version later := by
  rw [List.prefix_iff_eq_take.mp (sooner.trans passed), List.prefix_iff_eq_take.mp passed]
  exact monotone sooner.length_le

/-- What is published at any moment is of the version that its columns were asked in, and that is what is seen by
    whoever looks then. Its version never decreases, however the versions of the catalog increase, if and only if no
    reload is overtaken; then nobody sees an older version than was seen, and answered with, before. -/
theorem versions_kept_iff (schema : String) (included : List String) (tasks : ι → CatalogTask) {initial : Tables}
    {trace : List (Event ι)} {pool : Pool ι Tables Seen}
    (run : Pool.Run publishing ⟨initial, fun i => (tasks i).call schema included⟩ trace pool) :
    (∀ clock before after, trace = before ++ after →
      OfVersion schema included clock initial trace (lastPublished initial before) (versionPublished clock before)) ∧
    (∀ before i seen after, trace = before ++ ⟨i, .snapshot, seen⟩ :: after → seen = lastPublished initial before) ∧
    (∀ i seen, pool.calls i = .done (.all seen) → ⟨i, .snapshot, seen⟩ ∈ trace) ∧
    (∀ i, tasks i ≠ .reload → pool.calls i = (tasks i).call schema included ∨
      ∃ seen, ⟨i, .snapshot, seen⟩ ∈ trace ∧ pool.calls i = (tasks i).gives seen) ∧
    (¬ Overtaken schema trace ↔
      ∀ clock, Monotone clock → Monotone fun turns => versionPublished clock (trace.take turns)) ∧
    (¬ Overtaken schema trace → ∀ clock, Monotone clock → ∀ before i seen between j seen' after,
      trace = before ++ ⟨i, .snapshot, seen⟩ :: between ++ ⟨j, .snapshot, seen'⟩ :: after →
        versionPublished clock before ≤ versionPublished clock (before ++ ⟨i, .snapshot, seen⟩ :: between)) := by
  have never_back (kept : ¬ Overtaken schema trace) (clock : ℕ → ℕ) (increases : Monotone clock) :
      Monotone fun turns => versionPublished clock (trace.take turns) :=
    increases.comp (published_monotone run kept)
  refine ⟨fun clock _ _ parts => lastPublished_ofVersion run clock parts, fun _ _ _ _ parts => seen_eq run parts,
    fun i seen ended => ?_, fun i looks => ?_, ⟨never_back, fun kept overtaken => ?_⟩, ?_⟩
  · exact mem_actsOf_iff.mp (seen_of_ended run ended)
  · obtain ⟨-, rest⟩ | ⟨seen, acts, rest⟩ := looking run looks
    · exact .inl rest
    · have act : ⟨.snapshot, seen⟩ ∈ actsOf i trace := by simp [acts]
      exact .inr ⟨seen, mem_actsOf_iff.mp act, rest⟩
  · obtain ⟨clock, increases, back⟩ := goes_back_of_overtaken run overtaken
    exact back (kept clock increases)
  · intro kept clock increases before i seen between j seen' after parts
    exact le_of_isPrefix (never_back kept clock increases) (List.prefix_append ..) ⟨_, parts.symm⟩

/-! A slow reload reads an older version of a table than a fast one, and publishes it last. -/

inductive Race where
  | slow
  | fast
  | reader
  deriving DecidableEq

def raceTasks : Race → CatalogTask
  | .reader => .lookup "a"
  | _ => .reload

/-- A reply that describes a second column of the table, `n`. -/
def twoColumns : ResultSet :=
  { oneColumn with rows := oneColumn.rows ++
      [[some [97], some [110], some [0, 0, 0, 25], some [116], some [116], some [1], none, some [0], none]] }

def widerTable : Tables :=
  .ofList [("a", ⟨"a", "public", [⟨"id", 25, "t", "t", true, false, none, true, none⟩,
    ⟨"n", 25, "t", "t", true, true, none, false, none⟩]⟩)]

def raceStart : Pool Race Tables Seen :=
  ⟨.empty, fun i => (raceTasks i).call "public" ["a"]⟩

def raceTrace : List (Event Race) :=
  [.columns "public" .slow ["a"] (.ok oneColumn), .columns "public" .fast ["a"] (.ok twoColumns),
    .publication .fast widerTable, ⟨.fast, .snapshot, widerTable⟩, .publication .slow oneTable,
    ⟨.reader, .snapshot, oneTable⟩]

def raceCalls (slow fast reader : Call Seen) : Race → Call Seen
  | .slow => slow
  | .fast => fast
  | .reader => reader

/-- What a reload that has loaded tables has left to do, and what it has left once it has published them. -/
def toPublish (tables : Tables) : Call Seen :=
  .perform (.publish tables) fun _ => .perform .snapshot fun seen => .done (.all seen)

def toLook : Call Seen :=
  .perform .snapshot fun seen => .done (.all seen)

/-- Where the run ends: the fast reload was answered with both columns, and the reader with one. -/
def raceEnd : Pool Race Tables Seen :=
  ⟨oneTable, raceCalls toLook (.done (.all widerTable)) ((CatalogTask.lookup "a").gives oneTable)⟩

/-- The first turns of the run lead to published tables and calls. -/
def RaceReaches (turns : Nat) (published : Tables) (slow fast reader : Call Seen) : Prop :=
  Pool.Run publishing raceStart (raceTrace.take turns) ⟨published, raceCalls slow fast reader⟩

theorem race_run : Pool.Run publishing raceStart raceTrace raceEnd := by
  have slow_moves {slow slow' fast reader : Call Seen} :
      ∀ j, j ≠ .slow → raceCalls slow' fast reader j = raceCalls slow fast reader j := by
    rintro (_ | _ | _) other <;> first | rfl | exact absurd rfl other
  have fast_moves {slow fast fast' reader : Call Seen} :
      ∀ j, j ≠ .fast → raceCalls slow fast' reader j = raceCalls slow fast reader j := by
    rintro (_ | _ | _) other <;> first | rfl | exact absurd rfl other
  have reader_moves {slow fast reader reader' : Call Seen} :
      ∀ j, j ≠ .reader → raceCalls slow fast reader' j = raceCalls slow fast reader j := by
    rintro (_ | _ | _) other <;> first | rfl | exact absurd rfl other
  have loaded : loadedIn "public" ["a"] (.ok oneColumn) = .ok oneTable := by with_unfolding_all rfl
  have loaded' : loadedIn "public" ["a"] (.ok twoColumns) = .ok widerTable := by with_unfolding_all rfl
  have started : RaceReaches 0 .empty (describing "public" ["a"]) (describing "public" ["a"])
      (.perform .snapshot (CatalogTask.lookup "a").gives) := by
    have calls : (fun i => (raceTasks i).call "public" ["a"]) = raceCalls (describing "public" ["a"])
        (describing "public" ["a"]) (.perform .snapshot (CatalogTask.lookup "a").gives) := by
      funext i
      cases i with
      | reader => exact look_call_eq "public" ["a"] nofun
      | _ => exact reload_call_eq "public" ["a"]
    rw [RaceReaches, raceStart, calls]
    exact .start
  have slow_asked : RaceReaches 1 .empty (toPublish oneTable) (describing "public" ["a"])
      (.perform .snapshot (CatalogTask.lookup "a").gives) := by
    refine started.turn rfl rfl ?_ slow_moves
    simp only [raceCalls, loaded, toPublish]
  have fast_asked : RaceReaches 2 .empty (toPublish oneTable) (toPublish widerTable)
      (.perform .snapshot (CatalogTask.lookup "a").gives) := by
    refine slow_asked.turn rfl rfl ?_ fast_moves
    simp only [raceCalls, loaded', toPublish]
  have fast_published : RaceReaches 3 widerTable (toPublish oneTable) toLook
      (.perform .snapshot (CatalogTask.lookup "a").gives) := fast_asked.turn rfl rfl rfl fast_moves
  have fast_answered : RaceReaches 4 widerTable (toPublish oneTable) (.done (.all widerTable))
      (.perform .snapshot (CatalogTask.lookup "a").gives) := fast_published.turn rfl ⟨rfl, rfl⟩ rfl fast_moves
  have slow_published : RaceReaches 5 oneTable toLook (.done (.all widerTable))
      (.perform .snapshot (CatalogTask.lookup "a").gives) := fast_answered.turn rfl rfl rfl slow_moves
  exact slow_published.turn rfl ⟨rfl, rfl⟩ rfl reader_moves

/-- The version after the third turn, which the fast reload is answered with, is newer than the one after the fifth,
    which the reader sees. -/
theorem race_goes_back :
    Pool.Run publishing raceStart raceTrace raceEnd ∧ Monotone (id : ℕ → ℕ) ∧
    (raceTrace[3]? = some ⟨.fast, .snapshot, widerTable⟩ ∧ versionPublished id (raceTrace.take 3) = 2) ∧
    (raceTrace[5]? = some ⟨.reader, .snapshot, oneTable⟩ ∧ versionPublished id (raceTrace.take 5) = 1) ∧
    ¬ Monotone fun turns => versionPublished id (raceTrace.take turns) := by
  refine ⟨race_run, monotone_id, ⟨rfl, rfl⟩, ⟨rfl, rfl⟩, fun monotone => ?_⟩
  have le : versionPublished id (raceTrace.take 3) ≤ versionPublished id (raceTrace.take 5) := monotone (by decide)
  exact absurd le (by decide)

theorem versions_kept_iff_trio :
    Pool.Run publishing trioStart trioTrace trioEnd ∧
    ¬ Overtaken "public" trioTrace ∧
    OfVersion "public" ["a"] id .empty trioTrace oneTable 1 ∧
    Monotone fun turns => versionPublished id (trioTrace.take turns) := by
  have kept : ¬ Overtaken "public" trioTrace := fun overtaken => absurd (two_le_of_overtaken overtaken) (by decide)
  obtain ⟨ofVersion, -, -, -, never_back, -⟩ := versions_kept_iff "public" ["a"] trioTasks trio_run
  exact ⟨trio_run, kept, ofVersion id trioTrace [] (by simp), never_back.mp kept id monotone_id⟩

end TableGateway
