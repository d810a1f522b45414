import Mathlib
import TableGateway.Proofs.Dictionaries
import TableGateway.Proofs.Records
import TableGateway.Settings.TableSettings

/-!
# Documents of settings

Settings that are written are read again as they were (`TableSettings.ofJson_toJson`). So a change can be merged
in two ways: laid over the document that settings were read from, or over the document that the settings write.
The documents may differ, by members without a field or by defaults that are spelled out, but both ways give the
same settings or both give none (`TableSettings.merge_eq_ok_iff`): each field is read from the change, or else
from documents that agree on it. What documents take one after the other they take at once, and so do settings
(`TableSettings.merge_overlays`).
-/
namespace TableGateway
variable {α : Type}

theorem toOption_eq_some_iff {result : Except DecodeError α} {value : α} :
    result.toOption = some value ↔ result = .ok value := by
  cases result <;> simp [Except.toOption]

/-! ## Members that may be absent -/

namespace Json

theorem keys_memberIf_sublist (name : String) (value : Option Json) :
    ((memberIf name value).map Prod.fst).Sublist [name] := by
  cases value <;> simp [memberIf]

theorem lookup_memberIf_append (key name : String) (value : Option Json) (rest : List (String × Json)) :
    Dict.lookup key (memberIf name value ++ rest) =
      if name = key then value.or (Dict.lookup key rest) else Dict.lookup key rest := by
  cases value <;> simp [memberIf, Dict.lookup]

theorem lookup_memberIf (key name : String) (value : Option Json) :
    Dict.lookup key (memberIf name value) = if name = key then value else none := by
  cases value <;> simp [memberIf, Dict.lookup]

/-! ## Lists and dictionaries -/

theorem mapM_map_eq_ok {read : Reader α} {write : α → Json} (inverse : ∀ x, read (write x) = .ok x)
    (items : List α) : (items.map write).mapM read = .ok items := by
  induction items with
  | nil => rfl
  | cons item rest ih =>
    rw [List.map_cons, List.mapM_cons, inverse, ih]
    rfl

theorem asList_map {read : Reader α} {write : α → Json} (inverse : ∀ x, read (write x) = .ok x)
    (items : List α) : asList read (.array (items.map write)) = .ok items :=
  mapM_map_eq_ok inverse items

theorem asDict_map {read : Reader α} {write : α → Json} (inverse : ∀ x, read (write x) = .ok x) (d : Dict α) :
    asDict read (.ofDict (d.map write)) = .ok d := by
  have members (entries : List (String × α)) :
      (entries.map fun entry => (entry.1, write entry.2)).mapM
        (fun member : String × Json => (read member.2).map fun value => (member.1, value)) = .ok entries := by
    induction entries with
    | nil => rfl
    | cons entry rest ih =>
      rw [List.map_cons, List.mapM_cons, ih]
      simp only [inverse]
      rfl
  calc
    asDict read (.ofDict (d.map write)) = (Except.ok d.entries).map Dict.ofList :=
      congrArg (Except.map Dict.ofList) (members d.entries)
    _ = .ok d := congrArg Except.ok d.ofList_entries

/-- A field of an overlay is read from what is laid over, or else from the dictionary. -/
theorem fieldOf_overlay (d : Dict Json) (laid : List (String × Json)) (name : String) (read : Reader α)
    (absent : Except DecodeError α) :
    fieldOf (d.overlay laid).entries name read absent =
      match (Dict.ofList laid).get? name with
      | some value => read value
      | none => fieldOf d.entries name read absent := by
  have looked_up : Dict.lookup name (d.overlay laid).entries =
      ((Dict.ofList laid).get? name).or (Dict.lookup name d.entries) := d.get?_overlay laid name
  rw [fieldOf, looked_up]
  cases (Dict.ofList laid).get? name <;> rfl

end Json

/-! ## Written and read again -/

theorem InputOverride.record_checked : InputOverride.record.Checked :=
  (((Record.checked_start _).field _ _ _ _).field _ _ _ _).field _ _ _ _

theorem Relation.record_checked : Relation.record.Checked :=
  ((((((Record.checked_start _).field _ _ _ _).field _ _ _ _).field _ _ _ _).field _ _ _ _).field _ _ _ _).field
    _ _ _ _

theorem TableSettings.record_checked : TableSettings.record.Checked :=
  (((((Record.checked_start _).field _ _ _ _).field _ _ _ _).field _ _ _ _).field _ _ _ _).field _ _ _ _

theorem InputOverride.ofJson_toJson (input : InputOverride) : InputOverride.ofJson input.toJson = .ok input := by
  have ordered : ["isArray", "payload", "type"].Pairwise (· < ·) := by decide
  refine (Record.decode_object_eq_ok_iff record_checked _ ?_ _).mpr ?_
  · exact ordered
  · simp [record, Record.required, Record.withDefault, Except.bind, Except.map, Json.fieldOf, Dict.lookup,
      Json.asText, Json.asBool, Json.asJson]

theorem Relation.ofJson_toJson (relation : Relation) : Relation.ofJson relation.toJson = .ok relation := by
  obtain ⟨mainTable, relationTable, joinTable, bidirectional, mainJoinColumn, relationJoinColumn⟩ := relation
  have ordered : ["bidirectional", "joinTable", "mainJoinColumn", "mainTable", "relationJoinColumn",
      "relationTable"].Pairwise (· < ·) := by decide
  refine (Record.decode_object_eq_ok_iff record_checked _ (ordered.sublist ?_) _).mpr ?_
  · simp only [List.map_append]
    exact ((((List.Sublist.refl _).append (Json.keys_memberIf_sublist _ _)).append (List.Sublist.refl _)).append
      (Json.keys_memberIf_sublist _ _)).append (List.Sublist.refl _)
  · cases mainJoinColumn <;> cases relationJoinColumn <;>
      simp [record, Record.required, Record.withDefault, Except.bind, Except.map, Json.fieldOf, Dict.lookup,
        Json.memberIf, Json.asText, Json.asBool, Json.nullable]

namespace TableSettings

theorem ofMembers_eq_ok_iff (members : List (String × Json)) (s : TableSettings) :
    record.ofMembers members = .ok s ↔
      Json.fieldOf members "viewLinkPattern" Json.asText (.ok "") = .ok s.linkPattern ∧
      Json.fieldOf members "tableViewSelectColumns" (Json.asList Json.asText) (.ok []) = .ok s.viewColumns ∧
      Json.fieldOf members "tableViewTextFiltersCols" (Json.asList Json.asText) (.ok []) = .ok s.searchColumns ∧
      Json.fieldOf members "overriddenInputs" (Json.asDict InputOverride.ofJson) (.ok .empty) = .ok s.inputs ∧
      Json.fieldOf members "relations" (Json.asList Relation.ofJson) (.ok []) = .ok s.relations := by
  simp only [record, Record.withDefault, Record.ofMembers_field_eq_ok_iff, Record.ofMembers_start, Except.ok.injEq]
  constructor
  · rintro ⟨_, _, ⟨_, _, ⟨_, _, ⟨_, _, ⟨_, _, rfl, first, rfl⟩, second, rfl⟩, third, rfl⟩, fourth, rfl⟩,
      fifth, rfl⟩
    exact ⟨first, second, third, fourth, fifth⟩
  · rintro ⟨first, second, third, fourth, fifth⟩
    exact ⟨_, _, ⟨_, _, ⟨_, _, ⟨_, _, ⟨_, _, rfl, first, rfl⟩, second, rfl⟩, third, rfl⟩, fourth, rfl⟩,
      fifth, rfl⟩

theorem ofJson_ofDict_eq_ok_iff (d : Dict Json) (s : TableSettings) :
    ofJson (.ofDict d) = .ok s ↔ record.ofMembers d.entries = .ok s :=
  Record.decode_ofDict_eq_ok_iff record_checked _ d s

theorem ofJson_empty : ofJson (.ofDict .empty) = .ok .blank := by
  rw [ofJson_ofDict_eq_ok_iff, ofMembers_eq_ok_iff]
  exact ⟨rfl, rfl, rfl, rfl, rfl⟩

/-- Settings write an object, with members by increasing key. -/
theorem toJson_eq_ofDict (s : TableSettings) : ∃ d, s.toJson = .ofDict d := by
  have ordered : ["overriddenInputs", "relations", "tableViewSelectColumns", "tableViewTextFiltersCols",
      "viewLinkPattern"].Pairwise (· < ·) := by decide
  refine ⟨⟨_, ordered.sublist ?_⟩, rfl⟩
  simp only [List.map_append]
  exact (((Json.keys_memberIf_sublist _ _).append (Json.keys_memberIf_sublist _ _)).append
    (List.Sublist.refl _)).append (Json.keys_memberIf_sublist _ _)

theorem ofJson_toJson (s : TableSettings) : ofJson s.toJson = .ok s := by
  obtain ⟨d, written⟩ := s.toJson_eq_ofDict
  have entries : s.toJson = .object d.entries := written
  rw [written, ofJson_ofDict_eq_ok_iff, ofMembers_eq_ok_iff]
  simp only [toJson, Json.object.injEq] at entries
  rw [← entries]
  simp only [Json.fieldOf, List.append_assoc, Json.lookup_memberIf_append]
  have text (s : String) : Json.asText (.string s) = .ok s := rfl
  have texts (items : List String) : Json.asList Json.asText (.ofTexts items) = .ok items :=
    Json.asList_map text items
  refine ⟨?linkPattern, ?viewColumns, ?searchColumns, ?inputs, ?relations⟩
  case linkPattern =>
    by_cases said : s.linkPattern = "" <;> simp [Dict.lookup, Json.lookup_memberIf, said, Json.asText]
  case viewColumns => simp [Dict.lookup, texts]
  case searchColumns => simp [Dict.lookup, texts]
  case inputs =>
    by_cases said : s.inputs.isEmpty
    · have none_said : s.inputs = .empty := Dict.ext (List.isEmpty_iff.mp said)
      simp [Dict.lookup, Json.lookup_memberIf, none_said, Dict.isEmpty, Dict.empty]
    · simp [Dict.lookup, Json.lookup_memberIf, said, Json.asDict_map InputOverride.ofJson_toJson]
  case relations =>
    by_cases said : s.relations.isEmpty
    · simp [Dict.lookup, Json.lookup_memberIf, List.isEmpty_iff.mp said]
    · simp [Dict.lookup, Json.lookup_memberIf, said, Json.asList_map Relation.ofJson_toJson]

/-- A document with a change laid over it holds settings when its own settings take the change, and both are the
    same. -/
theorem merge_eq_ok_iff {d : Dict Json} {s : TableSettings} (holds : ofJson (.ofDict d) = .ok s)
    (members : List (String × Json)) (merged : TableSettings) :
    s.merge members = .ok merged ↔ ofJson (.ofDict (d.overlay members)) = .ok merged := by
  obtain ⟨written, same⟩ := s.toJson_eq_ofDict
  have again : ofJson (.ofDict written) = .ok s := same ▸ s.ofJson_toJson
  have laid : s.toJson.overlay members = .ofDict (written.overlay members) := by
    rw [same, Json.ofDict, Json.overlay, Json.ofDict, Dict.entries_overlay]
  rw [merge, laid]
  rw [ofJson_ofDict_eq_ok_iff, ofMembers_eq_ok_iff] at holds again ⊢
  rw [ofJson_ofDict_eq_ok_iff, ofMembers_eq_ok_iff]
  -- A field that the change has is read from it on both sides; any other is that of `s`, in `d` and in `written`.
  simp only [Json.fieldOf_overlay, holds, again]

theorem merge_eq_ok_iff_overlays {raw change whole : Dict Json} {s : TableSettings}
    (holds : ofJson (.ofDict raw) = .ok s) (overlays : change.Overlays raw whole) (merged : TableSettings) :
    s.merge change.entries = .ok merged ↔ ofJson (.ofDict whole) = .ok merged := by
  rw [merge_eq_ok_iff holds, ← Dict.overlays_iff.mp overlays]

/-- Settings take a change as the document does that they were read from, whatever else that document has or spells
    out. So they take two changes one after the other as they take both at once, and the same change again leaves
    them as they are. -/
theorem merge_overlays {raw : Dict Json} {s : TableSettings} (holds : ofJson (.ofDict raw) = .ok s) :
    (∀ change whole : Dict Json, change.Overlays raw whole →
      (s.merge change.entries).toOption = (ofJson (.ofDict whole)).toOption) ∧
    (∀ (first second both : Dict Json) (between : TableSettings), second.Overlays first both →
      s.merge first.entries = .ok between →
        (between.merge second.entries).toOption = (s.merge both.entries).toOption) ∧
    (∀ (change : Dict Json) (merged : TableSettings),
      s.merge change.entries = .ok merged → merged.merge change.entries = .ok merged) := by
  refine ⟨fun change whole overlays => Option.ext fun merged => ?_,
    fun first second both between at_once taken => Option.ext fun last => ?_, fun change merged taken => ?_⟩
  · rw [toOption_eq_some_iff, toOption_eq_some_iff, merge_eq_ok_iff_overlays holds overlays]
  · -- The document with the first change laid over it holds the settings in between.
    have under := Dict.overlays_overlay first raw
    have upon := Dict.overlays_overlay second (raw.overlay first.entries)
    have holds_between := (merge_eq_ok_iff_overlays holds under between).mp taken
    rw [toOption_eq_some_iff, toOption_eq_some_iff, merge_eq_ok_iff_overlays holds_between upon,
      merge_eq_ok_iff_overlays holds (at_once.assoc under upon)]
  · have overlays := Dict.overlays_overlay change raw
    have holds_merged := (merge_eq_ok_iff_overlays holds overlays merged).mp taken
    exact (merge_eq_ok_iff_overlays holds_merged overlays.again merged).mpr holds_merged

/-- A document with a member that is no field, with fields that are spelled out though they are empty, with a relation
    by position and an input with a payload. -/
def bookDocument : Dict Json where
  entries := [("note", .string "by hand"),
    ("overriddenInputs", .object
      [("title", .object [("payload", .array [.null, .object []]), ("type", .string "text")])]),
    ("relations", .array [.array [.string "books", .string "tags", .string "book_tags"]]),
    ("tableViewSelectColumns", .array []),
    ("viewLinkPattern", .string "")]
  ordered := by decide

/-- The settings that it holds. -/
def bookSettings : TableSettings where
  linkPattern := ""
  viewColumns := []
  searchColumns := []
  inputs := ⟨[("title", ⟨"text", false, .array [.null, .object []]⟩)], by decide⟩
  relations := [⟨"books", "tags", "book_tags", false, none, none⟩]

/-- A change of their columns that also takes the pattern for links again. -/
def bookChange : Dict Json where
  entries := [("tableViewSelectColumns", .array [.string "title"]), ("viewLinkPattern", .string "")]
  ordered := by decide

/-- The settings with the change. -/
def bookChanged : TableSettings :=
  { bookSettings with viewColumns := ["title"] }

theorem merge_overlays_books :
    ofJson (.ofDict bookDocument) = .ok bookSettings ∧ bookSettings.merge bookChange.entries = .ok bookChanged ∧
      (ofJson (.ofDict (bookDocument.overlay bookChange.entries))).toOption = some bookChanged ∧
      bookChanged.merge bookChange.entries = .ok bookChanged := by
  have holds : ofJson (.ofDict bookDocument) = .ok bookSettings := by rfl
  have taken : bookSettings.merge bookChange.entries = .ok bookChanged := by rfl
  obtain ⟨agree, -, again⟩ := merge_overlays holds
  refine ⟨holds, taken, ?_, again bookChange bookChanged taken⟩
  rw [← agree bookChange _ (Dict.overlays_overlay bookChange bookDocument), taken]
  rfl

end TableSettings
end TableGateway
