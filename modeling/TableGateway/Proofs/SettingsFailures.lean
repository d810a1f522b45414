import Mathlib
import TableGateway.Proofs.SettingsSteps

/-!
# Updates of settings that fail

What a change is laid over is checked before it is written, but in two places: the check takes the cached
settings, the merge the document. Where the document holds settings, or there is none, the two agree, and an
update that fails leaves everything as it was. A document that holds no settings was passed over when the
cache was loaded; the change is then checked with blank settings, and an update can fail behind the merge, with
the document changed (`failed_update_writes`). Nothing else changes then (`failed_update_keeps`).
-/
namespace TableGateway

/-- How an update that runs alone may end. -/
inductive UpdateEnds (table : Table) (members : List (String × Json)) (w : SettingsState) :
    Except Error TableSettings → SettingsState → Prop where
  | rejected {cause : DecodeError} (unfit : ((w.cache.get? table.name).getD .blank).merge members = .error cause) :
      UpdateEnds table members w (.error (.invalid cause.message)) w
  | refused (cause : DatabaseError) : UpdateEnds table members w (.error (.database cause)) w
  /-- The merge is done, though its document holds no settings. -/
  | spoiled {merged : TableSettings} {cause : DecodeError}
      (fits : ((w.cache.get? table.name).getD .blank).merge members = .ok merged)
      (holds_none : TableSettings.ofJson (.ofDict (laidDocument w.documents table.name members)) = .error cause) :
      UpdateEnds table members w (.error (.invalid cause.message))
        { w with documents := mergeDocument w.documents table.name members }
  | done {settings : TableSettings}
      (holds : TableSettings.ofJson (.ofDict (laidDocument w.documents table.name members)) = .ok settings) :
      UpdateEnds table members w (.ok (settings.withDefaults table))
        { w with
          cache := w.cache.insert table.name settings
          documents := mergeDocument w.documents table.name members }

section
variable {schema : String} {table : Table} {members : List (String × Json)} {w w' : SettingsState}
  {outcome : Except Error TableSettings}

theorem moves_of_ends {stage : Stage}
    (ends : (stage.call schema table members).Ends (SettingsState.may schema) w outcome w')
    (going : ∀ given, stage ≠ .ended given) :
    ∃ deed stage' between, Moves table members stage w deed stage' between ∧
      (stage'.call schema table members).Ends (SettingsState.may schema) between outcome w' := by
  cases call : stage.call schema table members with
  | perform e resume =>
    rw [call, Call.ends_perform_iff] at ends
    obtain ⟨answer, between, answers, goes_on⟩ := ends
    obtain ⟨stage', same, moves⟩ := Stage.moves call answers
    exact ⟨_, stage', between, moves, same ▸ goes_on⟩
  | _ =>
    cases stage with
    | ended given => exact absurd rfl (going given)
    | _ => cases call

theorem releasing_ends {given : Except Error TableSettings}
    (ends : ((Stage.releasing given).call schema table members).Ends (SettingsState.may schema) w outcome w') :
    outcome = given ∧ w' = { w with isLocked := false } := by
  obtain ⟨_, _, _, released, ended⟩ := moves_of_ends ends nofun
  cases released with
  | leave => exact Call.ends_ofExcept_iff.mp ended

/-- An update of members that runs alone finds the lock free, and ends in one of four ways. -/
theorem updateEnds_of_ends
    (ends : (Call.updateSettings schema table (.object members)).Ends (SettingsState.may schema) w outcome w') :
    UpdateEnds table members w outcome w' := by
  obtain ⟨cache, isLocked, documents⟩ := w
  rw [updateSettings_eq] at ends
  obtain ⟨_, _, _, entered, ends⟩ := moves_of_ends ends nofun
  cases entered with
  | enter free =>
    -- The lock was free, so the unlock leaves it as it was before the update.
    obtain rfl : isLocked = false := free
    obtain ⟨_, _, _, checked, ends⟩ := moves_of_ends ends nofun
    cases checked with
    | reject unfit =>
      obtain ⟨rfl, rfl⟩ := releasing_ends ends
      exact .rejected unfit
    | accept fits =>
      obtain ⟨_, _, _, written, ends⟩ := moves_of_ends ends nofun
      cases written with
      | refuse cause =>
        obtain ⟨rfl, rfl⟩ := releasing_ends ends
        exact .refused cause
      | spoil holds_none =>
        obtain ⟨rfl, rfl⟩ := releasing_ends ends
        exact .spoiled fits holds_none
      | write holds =>
        obtain ⟨_, _, _, cached, ends⟩ := moves_of_ends ends nofun
        cases cached with
        | cache settings =>
          obtain ⟨rfl, rfl⟩ := releasing_ends ends
          exact .done holds

end

/-! ## One update after the other -/

/-- The states that updates lead to, one after the other, whether they succeed or not. -/
inductive Reached (schema : String) (start : SettingsState) : SettingsState → Prop where
  | start : Reached schema start start
  | update {w w' : SettingsState} {outcome : Except Error TableSettings} (reached : Reached schema start w)
      (table : Table) (change : Json)
      (ends : (Call.updateSettings schema table change).Ends (SettingsState.may schema) w outcome w') :
      Reached schema start w'

theorem refused_of_ends {schema : String} {table : Table} {change : Json} {w w' : SettingsState}
    {outcome : Except Error TableSettings} (other : ∀ members, change ≠ .object members)
    (ends : (Call.updateSettings schema table change).Ends (SettingsState.may schema) w outcome w') :
    outcome = .error (.badRequest "settings must be a JSON object") ∧ w' = w := by
  cases change with
  | object members => exact absurd rfl (other members)
  | _ => exact Call.ends_fail_iff.mp ends

/-- What every update of members keeps holds of all states that updates lead to. -/
theorem Reached.keeps {schema : String} {start w : SettingsState} {P : SettingsState → Prop} (first : P start)
    (kept : ∀ {table members w outcome w'}, UpdateEnds table members w outcome w' → P w → P w')
    (reached : Reached schema start w) : P w := by
  induction reached with
  | start => exact first
  | @update w w' outcome reached table change ends ih =>
    by_cases object : ∃ members, change = .object members
    · obtain ⟨members, rfl⟩ := object
      exact kept (updateEnds_of_ends ends) ih
    · obtain ⟨-, rfl⟩ := refused_of_ends (fun members same => object ⟨members, same⟩) ends
      exact ih

/-- Where the merge goes wrong, the document that was there holds no settings, and none are cached. -/
theorem Tracks.spoiled {cache : Dict TableSettings} {documents : Dict (Dict Json)} (tracks : Tracks cache documents)
    {name : String} {members : List (String × Json)} {merged : TableSettings} {cause : DecodeError}
    (fits : ((cache.get? name).getD .blank).merge members = .ok merged)
    (holds_none : TableSettings.ofJson (.ofDict (laidDocument documents name members)) = .error cause) :
    cache.get? name = none ∧ ∃ document, documents.get? name = some document ∧ settingsOf? document = none := by
  have unfit : ∃ document, documents.get? name = some document ∧ settingsOf? document = none := by
    by_contra none_unfit
    have all_fit : ∀ document, documents.get? name = some document → settingsOf? document ≠ none :=
      fun document present unfit => none_unfit ⟨document, present, unfit⟩
    have holds := (tracks.merge_eq_ok_iff all_fit members merged).mp fits
    simp [holds] at holds_none
  obtain ⟨document, present, holds⟩ := unfit
  refine ⟨?_, document, present, holds⟩
  rw [tracks name, present, Option.bind_some, holds]

namespace UpdateEnds
variable {table : Table} {members : List (String × Json)} {w w' : SettingsState} {outcome : Except Error TableSettings}

theorem tracks (ends : UpdateEnds table members w outcome w') (tracks : Tracks w.cache w.documents) :
    Tracks w'.cache w'.documents := by
  cases ends with
  | rejected unfit => exact tracks
  | refused cause => exact tracks
  | spoiled fits holds_none =>
    obtain ⟨uncached, -⟩ := tracks.spoiled fits holds_none
    exact tracks.insert_unfit uncached (settingsOf?_eq_none_iff.mpr ⟨_, holds_none⟩)
  | done holds => exact tracks.insert table.name holds

theorem coherent (ends : UpdateEnds table members w outcome w') (coherent : Coherent w.cache w.documents) :
    Coherent w'.cache w'.documents := by
  cases ends with
  | rejected unfit => exact coherent
  | refused cause => exact coherent
  | spoiled fits holds_none =>
    rw [coherent.holds_of_fits fits] at holds_none
    cases holds_none
  | done holds => exact coherent.insert table.name holds

/-- Where the cache is coherent, an update that fails changes nothing. -/
theorem eq_of_coherent {cause : Error} (ends : UpdateEnds table members w (.error cause) w')
    (coherent : Coherent w.cache w.documents) : w' = w := by
  cases ends with
  | rejected unfit => rfl
  | refused cause => rfl
  | spoiled fits holds_none =>
    rw [coherent.holds_of_fits fits] at holds_none
    cases holds_none

end UpdateEnds

/-- After loading and any number of updates, an update that fails changes neither the cache nor the document of any
    other table. It changes the document of its own table only where that held no settings before, so that loading
    passed it over, and holds none with the change laid over it. If all loaded documents held settings, it changes
    nothing. -/
theorem failed_update_keeps {schema : String} {before loaded w w' : SettingsState} {cache : Dict TableSettings}
    {table : Table} {change : Json} {cause : Error}
    (loads : (Call.loadSettings schema).Ends (SettingsState.may schema) before (.ok cache) loaded)
    (reached : Reached schema { loaded with cache } w)
    (ends : (Call.updateSettings schema table change).Ends (SettingsState.may schema) w (.error cause) w') :
    w'.cache = w.cache ∧
    (∀ name, name ≠ table.name → w'.documents.get? name = w.documents.get? name) ∧
    (w'.documents = w.documents ∨
      ∃ members document, change = .object members ∧ w.documents.get? table.name = some document ∧
        settingsOf? document = none ∧
        w'.documents.get? table.name = some (document.overlay members) ∧
        settingsOf? (document.overlay members) = none) ∧
    ((∀ name document, before.documents.get? name = some document →
        ∃ settings, TableSettings.ofJson (.ofDict document) = .ok settings) → w'.documents = w.documents) := by
  obtain ⟨rfl, tracks⟩ := tracks_of_loaded loads
  by_cases object : ∃ members, change = .object members
  · obtain ⟨members, rfl⟩ := object
    have update := updateEnds_of_ends ends
    have tracks_now : Tracks w.cache w.documents :=
      reached.keeps (P := fun w => Tracks w.cache w.documents) tracks UpdateEnds.tracks
    have unchanged (fits : ∀ name document, loaded.documents.get? name = some document →
        ∃ settings, TableSettings.ofJson (.ofDict document) = .ok settings) : w'.documents = w.documents := by
      have first : Coherent cache loaded.documents := .of_tracks tracks fits
      have coherent : Coherent w.cache w.documents :=
        reached.keeps (P := fun w => Coherent w.cache w.documents) first UpdateEnds.coherent
      rw [update.eq_of_coherent coherent]
    cases update with
    | rejected unfit => exact ⟨rfl, fun _ _ => rfl, .inl rfl, unchanged⟩
    | refused cause => exact ⟨rfl, fun _ _ => rfl, .inl rfl, unchanged⟩
    | spoiled fits holds_none =>
      obtain ⟨-, document, present, unfit⟩ := tracks_now.spoiled fits holds_none
      have laid : laidDocument w.documents table.name members = document.overlay members := by
        rw [laidDocument, present, Option.getD_some]
      refine ⟨rfl, ?_, .inr ⟨members, document, rfl, present, unfit, ?_, ?_⟩, unchanged⟩
      · intro name other
        rw [mergeDocument, Dict.get?_insert, if_neg other]
      · rw [mergeDocument, Dict.get?_insert, if_pos rfl, laid]
      · exact settingsOf?_eq_none_iff.mpr ⟨_, laid ▸ holds_none⟩
  · obtain ⟨-, rfl⟩ := refused_of_ends (fun members same => object ⟨members, same⟩) ends
    exact ⟨rfl, fun _ _ => rfl, .inl rfl, fun _ => rfl⟩

/-! A document whose relations are no list is passed over, and then a pattern for links is laid over it. -/

def spoiltState : SettingsState :=
  ⟨.empty, false, .ofList [("users", .ofList [("relations", .string "nope")])]⟩

def spoiltRows : ResultSet :=
  ⟨[⟨"key", "TEXT"⟩, ⟨"config", "JSONB"⟩],
    [[asciiCell [] "users", asciiCell [1] "\x7b\"relations\":\"nope\"\x7d"]], 1⟩

def spoiltReply : ResultSet :=
  ⟨[⟨"config", "JSONB"⟩],
    [[asciiCell [1] "\x7b\"relations\":\"nope\",\"viewLinkPattern\":\"/x\"\x7d"]], 1⟩

def patternChange : List (String × Json) := [("viewLinkPattern", .string "/x")]

def spoiltEnd : SettingsState :=
  ⟨.empty, false, mergeDocument spoiltState.documents "users" patternChange⟩

def spoiltCause : Error := .invalid "invalid type: string \"nope\", expected a sequence"

theorem spoilt_loads : (Call.loadSettings "pgdeck").Ends (SettingsState.may "pgdeck") spoiltState (.ok .empty)
    spoiltState := by
  have read : spoiltRows.allRows.mapM TableSettings.entryOfRow =
      .ok (spoiltState.documents.entries.map fun entry => (entry.1, .ofDict entry.2)) := by with_unfolding_all rfl
  exact SettingsState.may_load read (.refl _)

/-- The cached settings, which are blank, take the change; the merged document does not hold settings. -/
theorem spoilt_ends : (Call.updateSettings "pgdeck" usersTable (.object patternChange)).Ends
    (SettingsState.may "pgdeck") spoiltState (.error spoiltCause) spoiltEnd := by
  have gives : spoiltReply.merged = .ok (.ofDict (laidDocument spoiltState.documents "users" patternChange)) := by
    with_unfolding_all rfl
  have reply : settingsOfReply (.ok spoiltReply) = .error spoiltCause := by with_unfolding_all rfl
  rw [updateSettings_eq]
  refine Call.ends_perform_iff.mpr ⟨(), _, ⟨rfl, rfl⟩, ?_⟩
  refine Call.ends_perform_iff.mpr ⟨none, _, ⟨rfl, rfl⟩, ?_⟩
  refine Call.ends_perform_iff.mpr ⟨.ok spoiltReply, _, SettingsState.may_merge gives, ?_⟩
  rw [reply]
  exact Call.ends_perform_iff.mpr ⟨(), _, rfl, .fail ..⟩

/-- A failed update can have written: the check before the merge is about the cached settings, not about what is
    merged. -/
theorem failed_update_writes :
    (Call.loadSettings "pgdeck").Ends (SettingsState.may "pgdeck") spoiltState (.ok .empty) spoiltState ∧
    (Call.updateSettings "pgdeck" usersTable (.object patternChange)).Ends (SettingsState.may "pgdeck") spoiltState
      (.error spoiltCause) spoiltEnd ∧
    spoiltEnd.documents.get? "users" ≠ spoiltState.documents.get? "users" := by
  refine ⟨spoilt_loads, spoilt_ends, fun same => ?_⟩
  have sizes : (spoiltEnd.documents.get? "users").map Dict.size ≠
      (spoiltState.documents.get? "users").map Dict.size := by decide
  exact sizes (congrArg (Option.map Dict.size) same)

theorem failed_update_keeps_others :
    (Call.updateSettings "pgdeck" usersTable (.object patternChange)).Ends (SettingsState.may "pgdeck") spoiltState
      (.error spoiltCause) spoiltEnd ∧
    spoiltEnd.cache = spoiltState.cache ∧
    (∀ name, name ≠ "users" → spoiltEnd.documents.get? name = spoiltState.documents.get? name) := by
  obtain ⟨cache, others, -, -⟩ := failed_update_keeps spoilt_loads .start spoilt_ends
  exact ⟨spoilt_ends, cache, others⟩

end TableGateway
