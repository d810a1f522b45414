import Mathlib
import TableGateway.Proofs.Interleaving
import TableGateway.Proofs.SettingsDocuments
import TableGateway.Settings.Store

/-!
# Steps of the settings

Settings live in a cache, which a lock guards against a second writer, and in documents that the database keeps.
What the gateway relies on is `SettingsState.may`: the lock is taken when it is free; a statement fails without a
trace, or it does what its text says. Reading gives the documents, and merging lays members over the document of
a name and gives what comes out. An update is at one of six stages (`Stage.call`), and `Stage.moves` says
once what its next step can do.
-/
namespace TableGateway

/-- The document of a name with members laid over it; they are laid over nothing where there is none. -/
def laidDocument (documents : Dict (Dict Json)) (name : String) (members : List (String × Json)) : Dict Json :=
  ((documents.get? name).getD .empty).overlay members

def mergeDocument (documents : Dict (Dict Json)) (name : String) (members : List (String × Json)) :
    Dict (Dict Json) :=
  documents.insert name (laidDocument documents name members)

/-- Where settings live: the cache with its lock, and the documents by the name of their table. -/
structure SettingsState where
  cache : Dict TableSettings
  isLocked : Bool
  documents : Dict (Dict Json)

/-- The document that a merge gives: the first cell of its row. -/
def ResultSet.merged (set : ResultSet) : Except DatabaseError Json :=
  set.firstRow.bind fun row => row.get (.index 0) .document

namespace SettingsState

/-- What the database may answer to a statement, and what it leaves behind. -/
def Replies (schema sql : String) (arguments : List Argument) (w : SettingsState) :
    Except DatabaseError ResultSet → SettingsState → Prop
  | .error _, w' => w' = w
  | .ok set, w' =>
    (sql = readSettingsText schema → arguments = [.parameter (.text settingsKind)] →
      w' = w ∧ ∃ rows, set.allRows.mapM TableSettings.entryOfRow = .ok rows ∧
        rows.Perm (w.documents.entries.map fun entry => (entry.1, .ofDict entry.2))) ∧
    ∀ name members, sql = mergeSettingsText schema →
      arguments = [.parameter (.text settingsKind), .parameter (.text name), .document (.object members)] →
      w' = { w with documents := mergeDocument w.documents name members } ∧
        set.merged = .ok (.ofDict (laidDocument w.documents name members))

/-- What may answer an effect of a call that reads or writes settings. -/
def may (schema : String) : Environment SettingsState
  | .recall table, w, found, w' => found = w.cache.get? table ∧ w' = w
  | .remember table settings, w, _, w' => w' = { w with cache := w.cache.insert table settings }
  | .replaceCache cache, w, _, w' => w' = { w with cache }
  | .lock, w, _, w' => w.isLocked = false ∧ w' = { w with isLocked := true }
  | .unlock, w, _, w' => w' = { w with isLocked := false }
  | .ask (.execute sql arguments), w, answer, w' => w.Replies schema sql arguments answer w'
  | _, w, _, w' => w' = w

/-- A merge may be done when its reply has the merged document. -/
theorem may_merge {schema name : String} {members : List (String × Json)} {w : SettingsState} {set : ResultSet}
    (gives : set.merged = .ok (.ofDict (laidDocument w.documents name members))) :
    may schema (.ask (.execute (mergeSettingsText schema)
      [.parameter (.text settingsKind), .parameter (.text name), .document (.object members)])) w (.ok set)
      { w with documents := mergeDocument w.documents name members } := by
  refine ⟨by simp, fun name' members' _ same => ?_⟩
  simp only [List.cons.injEq, Argument.parameter.injEq, Sql.Parameter.text.injEq, Argument.document.injEq,
    Json.object.injEq] at same
  obtain ⟨-, rfl, rfl, -⟩ := same
  exact ⟨rfl, gives⟩

/-- Loading may succeed when the rows of the reply are the documents. -/
theorem may_load {schema : String} {w : SettingsState} {set : ResultSet} {rows : List (String × Json)}
    (read : set.allRows.mapM TableSettings.entryOfRow = .ok rows)
    (same : rows.Perm (w.documents.entries.map fun entry => (entry.1, .ofDict entry.2))) :
    (Call.loadSettings schema).Ends (may schema) w (.ok (TableSettings.cacheOf rows)) w := by
  have replies : may schema (.ask (.execute (readSettingsText schema) [.parameter (.text settingsKind)])) w
      (.ok set) w := ⟨fun _ _ => ⟨rfl, rows, read, same⟩, by simp⟩
  refine .perform replies ?_
  simp [Call.bind, Call.ofDatabase, read]

end SettingsState

/-! ## A cache that tracks documents -/

/-- The settings that a document holds, if it holds any. -/
def settingsOf? (document : Dict Json) : Option TableSettings :=
  (TableSettings.ofJson (.ofDict document)).toOption

theorem settingsOf?_eq_some_iff {document : Dict Json} {settings : TableSettings} :
    settingsOf? document = some settings ↔ TableSettings.ofJson (.ofDict document) = .ok settings :=
  toOption_eq_some_iff

theorem settingsOf?_eq_none_iff {document : Dict Json} :
    settingsOf? document = none ↔ ∃ cause, TableSettings.ofJson (.ofDict document) = .error cause := by
  rw [settingsOf?]
  cases TableSettings.ofJson (.ofDict document) <;> simp [Except.toOption]

/-- Holds when the cached settings are those that the documents hold. -/
def Tracks (cache : Dict TableSettings) (documents : Dict (Dict Json)) : Prop :=
  ∀ name, cache.get? name = (documents.get? name).bind settingsOf?

namespace Tracks
variable {cache : Dict TableSettings} {documents : Dict (Dict Json)}

theorem insert (tracks : Tracks cache documents) (name : String) {document : Dict Json} {settings : TableSettings}
    (holds : TableSettings.ofJson (.ofDict document) = .ok settings) :
    Tracks (cache.insert name settings) (documents.insert name document) := by
  intro k
  rw [Dict.get?_insert, Dict.get?_insert]
  split
  · exact (settingsOf?_eq_some_iff.mpr holds).symm
  · exact tracks k

/-- A cache without settings of a name tracks any document of that name that holds none. -/
theorem insert_unfit (tracks : Tracks cache documents) {name : String} {document : Dict Json}
    (uncached : cache.get? name = none) (holds_none : settingsOf? document = none) :
    Tracks cache (documents.insert name document) := by
  intro k
  rw [Dict.get?_insert]
  split
  · rename_i same
    rw [same, uncached]
    exact holds_none.symm
  · exact tracks k

/-- Unless a document holds no settings, the cached settings, or blank ones, are what the document says, or an
    empty one. -/
theorem shown (tracks : Tracks cache documents) {name : String}
    (fits : ∀ document, documents.get? name = some document → settingsOf? document ≠ none) :
    TableSettings.ofJson (.ofDict ((documents.get? name).getD .empty)) = .ok ((cache.get? name).getD .blank) := by
  rw [tracks name]
  cases present : documents.get? name with
  | none => exact TableSettings.ofJson_empty
  | some document =>
    obtain ⟨settings, holds⟩ := Option.ne_none_iff_exists'.mp (fits document present)
    rw [Option.bind_some, holds]
    exact settingsOf?_eq_some_iff.mp holds

/-- Then the settings that a change is checked with are those that the merged document holds. -/
theorem merge_eq_ok_iff (tracks : Tracks cache documents) {name : String}
    (fits : ∀ document, documents.get? name = some document → settingsOf? document ≠ none)
    (members : List (String × Json)) (merged : TableSettings) :
    ((cache.get? name).getD .blank).merge members = .ok merged ↔
      TableSettings.ofJson (.ofDict (laidDocument documents name members)) = .ok merged :=
  TableSettings.merge_eq_ok_iff (tracks.shown fits) members merged

end Tracks

/-- A cache has settings for every document, and no others. -/
structure Coherent (cache : Dict TableSettings) (documents : Dict (Dict Json)) : Prop where
  tracks : Tracks cache documents
  fits : ∀ name document, documents.get? name = some document → settingsOf? document ≠ none

namespace Coherent
variable {cache : Dict TableSettings} {documents : Dict (Dict Json)}

theorem of_tracks (tracks : Tracks cache documents)
    (fits : ∀ name document, documents.get? name = some document →
      ∃ settings, TableSettings.ofJson (.ofDict document) = .ok settings) : Coherent cache documents := by
  refine ⟨tracks, fun name document present => ?_⟩
  obtain ⟨settings, holds⟩ := fits name document present
  rw [settingsOf?_eq_some_iff.mpr holds]
  exact Option.some_ne_none settings

theorem insert (coherent : Coherent cache documents) (name : String) {document : Dict Json}
    {settings : TableSettings} (holds : TableSettings.ofJson (.ofDict document) = .ok settings) :
    Coherent (cache.insert name settings) (documents.insert name document) := by
  refine ⟨coherent.tracks.insert name holds, fun k other present => ?_⟩
  rw [Dict.get?_insert] at present
  split at present
  · obtain rfl : document = other := by simpa using present
    rw [settingsOf?_eq_some_iff.mpr holds]
    exact Option.some_ne_none settings
  · exact coherent.fits k other present

theorem entry (coherent : Coherent cache documents) (name : String) :
    (cache.get? name).map Except.ok =
      (documents.get? name).map fun document => TableSettings.ofJson (.ofDict document) := by
  rw [coherent.tracks name]
  cases present : documents.get? name with
  | none => rfl
  | some document =>
    obtain ⟨settings, holds⟩ := Option.ne_none_iff_exists'.mp (coherent.fits name document present)
    rw [Option.bind_some, holds, Option.map_some, Option.map_some, settingsOf?_eq_some_iff.mp holds]

/-- A change that the cached settings take gives a document that holds settings. -/
theorem holds_of_fits (coherent : Coherent cache documents) {name : String} {members : List (String × Json)}
    {merged : TableSettings} (fits : ((cache.get? name).getD .blank).merge members = .ok merged) :
    TableSettings.ofJson (.ofDict (laidDocument documents name members)) = .ok merged :=
  (coherent.tracks.merge_eq_ok_iff (coherent.fits name) members merged).mp fits

end Coherent

/-! ## Loading -/

theorem keys_filterMap_sublist {α β : Type} (f : α → Option β) (rows : List (String × α)) :
    ((rows.filterMap fun row => (f row.2).map fun value => (row.1, value)).map Prod.fst).Sublist
      (rows.map Prod.fst) := by
  induction rows with
  | nil => simp
  | cons row rest ih =>
    rw [List.filterMap_cons, List.map_cons]
    cases f row.2 with
    | none => exact ih.cons _
    | some value => exact ih.cons_cons _

/-- The cache of documents, in any order, tracks them. -/
theorem tracks_cacheOf {documents : Dict (Dict Json)} {rows : List (String × Json)}
    (same : rows.Perm (documents.entries.map fun entry => (entry.1, .ofDict entry.2))) :
    Tracks (TableSettings.cacheOf rows) documents := by
  have keys : (rows.map Prod.fst).Perm (documents.entries.map Prod.fst) := by
    simpa [Function.comp_def] using same.map Prod.fst
  have distinct := (keys.nodup_iff.mpr documents.keys_nodup).sublist
    (keys_filterMap_sublist (fun document => (TableSettings.ofJson document).toOption) rows)
  intro name
  refine Option.ext fun settings => ?_
  rw [TableSettings.cacheOf, Dict.get?_ofList_eq_some_iff distinct]
  simp only [List.mem_filterMap, same.mem_iff, List.mem_map, Option.bind_eq_some_iff, Dict.get?_eq_some_iff]
  constructor
  · rintro ⟨row, ⟨⟨k, document⟩, listed, rfl⟩, found⟩
    obtain ⟨value, holds, same⟩ := Option.map_eq_some_iff.mp found
    obtain ⟨rfl, rfl⟩ := Prod.mk.inj same
    exact ⟨document, listed, holds⟩
  · rintro ⟨document, listed, holds⟩
    exact ⟨_, ⟨_, listed, rfl⟩, Option.map_eq_some_iff.mpr ⟨settings, holds, rfl⟩⟩

/-- Loading changes nothing, and gives a cache that tracks the documents. -/
theorem tracks_of_loaded {schema : String} {w w' : SettingsState} {cache : Dict TableSettings}
    (loaded : (Call.loadSettings schema).Ends (SettingsState.may schema) w (.ok cache) w') :
    w' = w ∧ Tracks cache w.documents := by
  simp only [Call.loadSettings, Call.execute, Call.effect, Call.bind_eq, Call.bind_perform, Call.bind_done,
    Call.pure_eq, Call.ends_perform_iff] at loaded
  obtain ⟨reply, between, answers, goes_on⟩ := loaded
  cases reply with
  | error cause => simp [Call.ofDatabase] at goes_on
  | ok set =>
    obtain ⟨rfl, rows, read, same⟩ := answers.1 rfl rfl
    simp only [Call.ofDatabase, Call.bind_done, read, Call.ends_done_iff, Except.ok.injEq] at goes_on
    obtain ⟨rfl, rfl⟩ := goes_on
    exact ⟨rfl, tracks_cacheOf same⟩

/-! ## Stages of an update -/

/-- What the trace tells of a step: the lock was taken, a statement was done, or neither. -/
inductive Deed where
  | enters
  | writes
  | other
  deriving DecidableEq

def deedOf : (e : Effect) → e.Answer → Deed
  | .lock, _ => .enters
  | .ask (.execute ..), .ok _ => .writes
  | _, _ => .other

/-- The lock is taken by its own effect only. -/
theorem lock_of_enters {e : Effect} {answer : e.Answer} (enters : deedOf e answer = .enters) : e = .lock := by
  unfold deedOf at enters
  split at enters
  · rfl
  · cases enters
  · cases enters

/-- How far an update is. -/
inductive Stage where
  | waiting
  /-- It holds the lock, and looks at the cached settings. -/
  | checking
  /-- The cached settings take the change, and it asks for the merge. -/
  | writing
  /-- The merge is done and gave these settings, which are to be cached. -/
  | caching (settings : TableSettings)
  | releasing (outcome : Except Error TableSettings)
  | ended (outcome : Except Error TableSettings)

section
variable (schema : String) (table : Table) (members : List (String × Json))

def settingsOfReply (reply : Except DatabaseError ResultSet) : Except Error TableSettings :=
  match reply.bind ResultSet.merged with
  | .error cause => .error (.database cause)
  | .ok document => (TableSettings.ofJson document).mapError fun cause => .invalid cause.message

/-- What an update still does at a stage. -/
def Stage.call : Stage → Call TableSettings
  | .ended outcome => .ofExcept outcome
  | .releasing outcome => releasing outcome
  | .caching settings => caching settings
  | .writing => writing
  | .checking => checking
  | .waiting => .perform .lock fun _ => checking
where
  releasing (outcome : Except Error TableSettings) : Call TableSettings :=
    .perform .unlock fun _ => .ofExcept outcome
  caching (settings : TableSettings) : Call TableSettings :=
    .perform (.remember table.name settings) fun _ => releasing (.ok (settings.withDefaults table))
  writing : Call TableSettings :=
    .perform (.ask (.execute (mergeSettingsText schema)
        [.parameter (.text settingsKind), .parameter (.text table.name), .document (.object members)])) fun reply =>
      match settingsOfReply reply with
      | .ok settings => caching settings
      | .error cause => releasing (.error cause)
  checking : Call TableSettings :=
    .perform (.recall table.name) fun found =>
      match (found.getD .blank).merge members with
      | .ok _ => writing
      | .error cause => releasing (.error (.invalid cause.message))

theorem mergeSettings_eq (document : Json) :
    Call.mergeSettings schema table.name document =
      .perform (.ask (.execute (mergeSettingsText schema)
        [.parameter (.text settingsKind), .parameter (.text table.name), .document document])) fun reply =>
          Call.ofDatabase (reply.bind ResultSet.merged) :=
  Call.execute_read _ _ ResultSet.merged

/-- An update with members starts by waiting for the lock. -/
theorem updateSettings_eq :
    Call.updateSettings schema table (.object members) = Stage.waiting.call schema table members := by
  simp only [Call.updateSettings, Call.locked, Call.effect, Call.cachedSettings, mergeSettings_eq, Call.pure_eq,
    Call.bind_eq, Call.bind_perform, Call.bind_done, Stage.call, Stage.call.checking]
  refine congrArg (Call.perform .lock) (funext fun _ => ?_)
  refine congrArg (Call.perform (.recall table.name)) (funext fun found => ?_)
  beta_reduce
  cases (found.getD .blank).merge members with
  | error cause => rfl
  | ok merged =>
    refine congrArg (Call.perform (.ask (.execute (mergeSettingsText schema) _))) (funext fun reply => ?_)
    beta_reduce
    rw [settingsOfReply]
    cases reply.bind ResultSet.merged with
    | error cause => rfl
    | ok document =>
      simp only [Call.ofDatabase, Call.bind_done]
      cases TableSettings.ofJson document <;> rfl

/-- What the next step of an update can do, to its stage and to what is shared. -/
inductive Moves (table : Table) (members : List (String × Json)) :
    Stage → SettingsState → Deed → Stage → SettingsState → Prop where
  | enter {w : SettingsState} (free : w.isLocked = false) :
      Moves table members .waiting w .enters .checking { w with isLocked := true }
  | accept {w : SettingsState} {merged : TableSettings}
      (fits : ((w.cache.get? table.name).getD .blank).merge members = .ok merged) :
      Moves table members .checking w .other .writing w
  | reject {w : SettingsState} {cause : DecodeError}
      (unfit : ((w.cache.get? table.name).getD .blank).merge members = .error cause) :
      Moves table members .checking w .other (.releasing (.error (.invalid cause.message))) w
  /-- The merge fails without a trace. -/
  | refuse {w : SettingsState} (cause : DatabaseError) :
      Moves table members .writing w .other (.releasing (.error (.database cause))) w
  | write {w : SettingsState} {settings : TableSettings}
      (holds : TableSettings.ofJson (.ofDict (laidDocument w.documents table.name members)) = .ok settings) :
      Moves table members .writing w .writes (.caching settings)
        { w with documents := mergeDocument w.documents table.name members }
  /-- The merge is done, though its document holds no settings. -/
  | spoil {w : SettingsState} {cause : DecodeError}
      (holds_none : TableSettings.ofJson (.ofDict (laidDocument w.documents table.name members)) = .error cause) :
      Moves table members .writing w .writes (.releasing (.error (.invalid cause.message)))
        { w with documents := mergeDocument w.documents table.name members }
  | cache {w : SettingsState} (settings : TableSettings) :
      Moves table members (.caching settings) w .other (.releasing (.ok (settings.withDefaults table)))
        { w with cache := w.cache.insert table.name settings }
  | leave {w : SettingsState} (outcome : Except Error TableSettings) :
      Moves table members (.releasing outcome) w .other (.ended outcome) { w with isLocked := false }

variable {schema table members}

/-- Whatever answers the next effect of an update, the update moves on. -/
theorem Stage.moves {stage : Stage} {e : Effect} {resume : e.Answer → Call TableSettings} {w w' : SettingsState}
    {answer : e.Answer} (next : stage.call schema table members = .perform e resume)
    (answers : SettingsState.may schema e w answer w') :
    ∃ stage' : Stage, resume answer = stage'.call schema table members ∧
      Moves table members stage w (deedOf e answer) stage' w' := by
  cases stage with
  | waiting =>
    cases next
    obtain ⟨free, rfl⟩ := answers
    exact ⟨.checking, rfl, .enter free⟩
  | checking =>
    cases next
    obtain ⟨rfl, rfl⟩ := answers
    beta_reduce
    cases fits : ((w'.cache.get? table.name).getD .blank).merge members with
    | ok merged => exact ⟨.writing, rfl, .accept fits⟩
    | error cause => exact ⟨.releasing (.error (.invalid cause.message)), rfl, .reject fits⟩
  | writing =>
    cases next
    cases answer with
    | error cause =>
      obtain rfl : w' = w := answers
      exact ⟨.releasing (.error (.database cause)), rfl, .refuse cause⟩
    | ok set =>
      obtain ⟨rfl, gives⟩ := answers.2 table.name members rfl rfl
      have reply : settingsOfReply (.ok set) =
          (TableSettings.ofJson (.ofDict (laidDocument w.documents table.name members))).mapError
            fun cause => .invalid cause.message := by rw [settingsOfReply, Except.bind, gives]
      beta_reduce
      rw [reply]
      cases holds : TableSettings.ofJson (.ofDict (laidDocument w.documents table.name members)) with
      | ok settings => exact ⟨.caching settings, rfl, .write holds⟩
      | error cause => exact ⟨.releasing (.error (.invalid cause.message)), rfl, .spoil holds⟩
  | caching settings =>
    cases next
    obtain rfl := answers
    exact ⟨.releasing (.ok (settings.withDefaults table)), rfl, .cache settings⟩
  | releasing outcome =>
    cases next
    obtain rfl := answers
    exact ⟨.ended outcome, rfl, .leave outcome⟩
  | ended outcome => cases outcome <;> cases next

end

/-! ## A table and cells to run with -/

def usersTable : Table := ⟨"users", "public", []⟩

/-- The cell of a text of ASCII characters, behind the version of a document if it is one. -/
def asciiCell (version : List UInt8) (text : String) : RawCell :=
  some (version ++ text.toList.map fun c => UInt8.ofNat c.toNat)

end TableGateway
