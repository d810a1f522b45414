import TableGateway.Proofs.SettingsDocuments

/-!
# Spellings of documents

One record can be written in many ways. A member says nothing (`Record.Silent`) where it has no field, or where it
spells out what its field is without it; an object with such a member is read like the one without
(`Record.Silent.decode_insert`). A record can stand as an array of its fields as well (`TableSettings.toItems`,
`Table.toItems`). Whatever the spelling, the documents that settings and tables are written to are read again as they
were (`documents_read_back`).
-/
namespace TableGateway
variable {α β : Type}

theorem Dict.lookup_append (key : String) (first second : List (String × β)) :
    lookup key (first ++ second) = (lookup key first).or (lookup key second) := by
  induction first with
  | nil => rfl
  | cons entry first ih =>
    rw [List.cons_append, lookup, lookup, ih]
    split <;> rfl

namespace Record

/-! ## Members that say nothing -/

/-- A member that says nothing in a document of a record: it has no field, or spells out what its field is where the
    member is left out. -/
structure Silent (record : Record α) (key : String) (value : Json) : Prop where
  passes : ∀ read, Dict.lookup key record.fields = some read → read value = .ok ()
  unread : ∀ members, Dict.lookup key members = none →
    record.ofMembers (Dict.put key value members) = record.ofMembers members

theorem Silent.start (made : α) (key : String) (value : Json) : (Record.start made).Silent key value :=
  ⟨nofun, fun _ _ => rfl⟩

theorem Silent.field {record : Record (β → α)} {key : String} {value : Json} (silent : record.Silent key value)
    {name : String} {read : Reader β} {absent : Except DecodeError β} {short : Option β}
    (implied : key = name → ∃ part, absent = .ok part ∧ read value = .ok part) :
    (record.field name read absent short).Silent key value := by
  constructor
  · intro check found
    rw [Record.field, Dict.lookup_append, Option.or_eq_some_iff] at found
    obtain earlier | ⟨-, last⟩ := found
    · exact silent.passes check earlier
    · by_cases same : name = key
      · obtain ⟨part, -, reads⟩ := implied same.symm
        simp only [Dict.lookup, if_pos same, Option.some.injEq] at last
        rw [← last]
        exact congrArg (Except.map fun _ => ()) reads
      · simp [Dict.lookup, same] at last
  · intro members missing
    rw [ofMembers_field, ofMembers_field, silent.unread members missing, Json.fieldOf, Json.fieldOf, Dict.lookup_put]
    by_cases same : name = key
    · obtain ⟨part, without, reads⟩ := implied same.symm
      simp only [if_pos same, same ▸ missing, reads, without]
    · rw [if_neg same]

theorem check_cons (record : Record α) (key : String) (value : Json) (rest : List (String × Json)) :
    record.check ((key, value) :: rest) =
      (match Dict.lookup key record.fields with
        | some read => read value
        | none => .ok ()).bind fun _ => record.check rest := by
  rw [check]
  cases Dict.lookup key record.fields <;> rfl

theorem Silent.check_put {record : Record α} {key : String} {value : Json} (silent : record.Silent key value)
    {members : List (String × Json)} (missing : Dict.lookup key members = none) :
    record.check (Dict.put key value members) = record.check members := by
  have skipped (rest : List (String × Json)) : record.check ((key, value) :: rest) = record.check rest := by
    rw [check_cons]
    cases found : Dict.lookup key record.fields with
    | none => rfl
    | some read =>
      simp only [silent.passes read found]
      rfl
  induction members with
  | nil => exact skipped []
  | cons member rest ih =>
    obtain ⟨first, other⟩ := member
    rw [Dict.lookup] at missing
    split at missing
    · cases missing
    · rename_i apart
      rw [Dict.put]
      split
      · exact skipped _
      · rw [if_neg fun same => apart same.symm, check_cons, check_cons, ih missing]

/-- Documents with the member and without it are read alike. -/
theorem Silent.decode_insert {record : Record α} {key : String} {value : Json} (silent : record.Silent key value)
    (name : String) {d : Dict Json} (missing : d.get? key = none) :
    record.decode name (.ofDict (d.insert key value)) = record.decode name (.ofDict d) := by
  have steps (d : Dict Json) : record.decode name (.ofDict d) =
      (record.check d.entries).bind fun _ => record.ofMembers d.entries := rfl
  have entries : (d.insert key value).entries = Dict.put key value d.entries := rfl
  rw [steps, steps, entries, silent.check_put missing, silent.unread d.entries missing]

/-- Documents of a record may leave out the members of a list, and hold others that have no field. -/
def Lenient (record : Record α) (name : String) (implied : List (String × Json)) : Prop :=
  ∀ (d : Dict Json) (key : String) (value : Json), d.get? key = none →
    key ∉ record.fields.map Prod.fst ∨ (key, value) ∈ implied →
      record.decode name (.ofDict (d.insert key value)) = record.decode name (.ofDict d)

theorem lenient_of_silent {record : Record α} {name : String} {implied : List (String × Json)}
    (silent : ∀ key value, key ∉ record.fields.map Prod.fst ∨ (key, value) ∈ implied → record.Silent key value) :
    record.Lenient name implied :=
  fun _ key value missing said => (silent key value said).decode_insert name missing

section
variable {record : Record (β → α)} {names : List String} {implied : List (String × Json)} {key name : String}
  {value : Json} {read : Reader β}

theorem Silent.required (silent : record.Silent key value) (said : key ∉ names ∨ (key, value) ∈ implied)
    (field : name ∈ names := by decide) (unimplied : ∀ value, (name, value) ∉ implied := by simp) :
    (record.required name read).Silent key value := by
  refine silent.field ?_
  rintro rfl
  exact absurd said (by simp [field, unimplied])

theorem Silent.withDefault {left_out : β} (silent : record.Silent key value)
    (said : key ∉ names ∨ (key, value) ∈ implied) (field : name ∈ names := by decide)
    (reads : ∀ value, (name, value) ∈ implied → read value = .ok left_out := by simp <;> rfl) :
    (record.withDefault name read left_out).Silent key value := by
  refine silent.field ?_
  rintro rfl
  exact ⟨left_out, rfl, reads value (said.resolve_left (by simp [field]))⟩

end

end Record

/-! ## Lenient records -/

theorem InputOverride.record_lenient :
    record.Lenient "InputTypeLookup" [("isArray", .bool false), ("payload", .null)] :=
  Record.lenient_of_silent fun _ _ said =>
    .withDefault (.withDefault (.required (.start _ _ _) said) said) said

theorem Relation.record_lenient : record.Lenient "RelationsConfig"
    [("bidirectional", .bool false), ("mainJoinColumn", .null), ("relationJoinColumn", .null)] :=
  Record.lenient_of_silent fun _ _ said =>
    .withDefault (.withDefault (.withDefault (.required (.required (.required (.start _ _ _)
      said) said) said) said) said) said

theorem TableSettings.record_lenient : record.Lenient "TableSettings"
    [("viewLinkPattern", .string ""), ("tableViewSelectColumns", .array []), ("tableViewTextFiltersCols", .array []),
      ("overriddenInputs", .object []), ("relations", .array [])] :=
  Record.lenient_of_silent fun _ _ said =>
    .withDefault (.withDefault (.withDefault (.withDefault (.withDefault (.start _ _ _) said) said) said) said) said

theorem ForeignKey.record_lenient : record.Lenient "ForeignKeyInfo" [] :=
  Record.lenient_of_silent fun _ _ said => .required (.required (.required (.start _ _ _) said) said) said

theorem Column.record_lenient : record.Lenient "Column" [("default", .null), ("foreignKey", .null)] :=
  Record.lenient_of_silent fun _ _ said =>
    .withDefault (.required (.withDefault (.required (.required (.required (.required (.required (.required
      (.start _ _ _) said) said) said) said) said) said) said) said) said

theorem Table.record_lenient : record.Lenient "Table" [] :=
  Record.lenient_of_silent fun _ _ said => .required (.required (.required (.start _ _ _) said) said) said

/-! ## Columns and tables -/

theorem Json.asInt32_ofInt (n : Int32) : Json.asInt32 (.ofInt n.toInt) = .ok n := by
  have range : Int32.minValue.toInt ≤ n.toInt ∧ n.toInt ≤ Int32.maxValue.toInt := by
    have low := n.le_toInt
    have high := n.toInt_lt
    simp only [Int32.toInt_minValue, Int32.toInt_maxValue]
    omega
  simp only [Json.asInt32, Json.ofInt, if_pos range, Int32.ofInt_toInt]

theorem ForeignKey.record_checked : ForeignKey.record.Checked :=
  (((Record.checked_start _).field _ _ _ _).field _ _ _ _).field _ _ _ _

theorem Column.record_checked : Column.record.Checked :=
  (((((((((Record.checked_start _).field _ _ _ _).field _ _ _ _).field _ _ _ _).field _ _ _ _).field _ _ _ _).field
    _ _ _ _).field _ _ _ _).field _ _ _ _).field _ _ _ _

theorem Table.record_checked : Table.record.Checked :=
  (((Record.checked_start _).field _ _ _ _).field _ _ _ _).field _ _ _ _

theorem ForeignKey.ofJson_toJson (key : ForeignKey) : ForeignKey.ofJson key.toJson = .ok key := by
  have ordered : ["columnName", "constraintName", "tableName"].Pairwise (· < ·) := by decide
  refine (Record.decode_object_eq_ok_iff record_checked _ ?_ _).mpr ?_
  · exact ordered
  · simp [record, Record.required, Except.bind, Except.map, Json.fieldOf, Dict.lookup, Json.asText]

theorem Column.ofJson_toJson (c : Column) : Column.ofJson c.toJson = .ok c := by
  obtain ⟨name, oid, typeName, udtName, isText, isNullable, default, isPrimaryKey, foreignKey⟩ := c
  have ordered : ["default", "foreignKey", "isNullable", "isPrimaryKey", "isText", "name", "oid", "regType",
      "udtName"].Pairwise (· < ·) := by decide
  have text (s : String) : Json.nullable Json.asText (.string s) = .ok (some s) := rfl
  have target (key : ForeignKey) : Json.nullable ForeignKey.ofJson key.toJson = .ok (some key) :=
    congrArg (Except.map some) key.ofJson_toJson
  refine (Record.decode_object_eq_ok_iff record_checked _ (ordered.sublist ?_) _).mpr ?_
  · simp only [List.map_append]
    exact ((Json.keys_memberIf_sublist _ _).append (Json.keys_memberIf_sublist _ _)).append (List.Sublist.refl _)
  · cases default <;> cases foreignKey <;>
      simp [record, Record.required, Record.withDefault, Except.bind, Except.map, Json.fieldOf, Dict.lookup,
        Json.memberIf, Json.asText, Json.asBool, Json.asInt32_ofInt, text, target]

theorem Table.ofJson_toJson (t : Table) : Table.ofJson t.toJson = .ok t := by
  have ordered : ["columns", "name", "schema"].Pairwise (· < ·) := by decide
  refine (Record.decode_object_eq_ok_iff record_checked _ ?_ _).mpr ?_
  · exact ordered
  · simp [record, Record.required, Except.bind, Except.map, Json.fieldOf, Dict.lookup, Json.asText,
      Json.asList_map Column.ofJson_toJson]

/-! ## Documents without names -/

/-- The input as an array of its fields. -/
def InputOverride.toItems (input : InputOverride) : Json :=
  .array [.string input.kind, .bool input.isArray, input.payload]

/-- The relation as an array of its fields; a column that is not named is null. -/
def Relation.toItems (r : Relation) : Json :=
  .array [.string r.mainTable, .string r.relationTable, .string r.joinTable, .bool r.bidirectional,
    .ofText? r.mainJoinColumn, .ofText? r.relationJoinColumn]

/-- The settings as an array of their fields, and so every input and relation in them. -/
def TableSettings.toItems (s : TableSettings) : Json :=
  .array [.string s.linkPattern, .ofTexts s.viewColumns, .ofTexts s.searchColumns,
    .ofDict (s.inputs.map InputOverride.toItems), .array (s.relations.map Relation.toItems)]

/-- The target of a foreign key as an array of its fields. -/
def ForeignKey.toItems (key : ForeignKey) : Json :=
  .array [.string key.tableName, .string key.columnName, .string key.constraintName]

/-- The column as an array of its fields; what it has not is null. -/
def Column.toItems (c : Column) : Json :=
  .array [.string c.name, .ofInt c.oid.toInt, .string c.typeName, .string c.udtName, .bool c.isText,
    .bool c.isNullable, .ofText? c.default, .bool c.isPrimaryKey, (c.foreignKey.map ForeignKey.toItems).getD .null]

/-- The table as an array of its fields, and so every column in it. -/
def Table.toItems (t : Table) : Json :=
  .array [.string t.name, .string t.schema, .array (t.columns.map Column.toItems)]

theorem Json.nullable_ofText? (text : Option String) : Json.nullable Json.asText (.ofText? text) = .ok text := by
  cases text <;> rfl

theorem InputOverride.ofJson_toItems (input : InputOverride) : InputOverride.ofJson input.toItems = .ok input := rfl

theorem Relation.ofJson_toItems (r : Relation) : Relation.ofJson r.toItems = .ok r := by
  obtain ⟨_, _, _, _, mainJoinColumn, relationJoinColumn⟩ := r
  cases mainJoinColumn <;> cases relationJoinColumn <;> rfl

theorem Json.asList_ofTexts (items : List String) : asList asText (.ofTexts items) = .ok items := by
  have text (s : String) : asText (.string s) = .ok s := rfl
  exact asList_map text items

theorem TableSettings.ofJson_toItems (s : TableSettings) : TableSettings.ofJson s.toItems = .ok s := by
  have inputs := Json.asDict_map InputOverride.ofJson_toItems s.inputs
  have relations := Json.asList_map Relation.ofJson_toItems s.relations
  simp [ofJson, toItems, record, Record.decode, Record.start, Record.withDefault, Record.field, Json.asText,
    Json.asList_ofTexts, inputs, relations, bind, Except.bind, pure, Except.pure]

theorem ForeignKey.ofJson_toItems (key : ForeignKey) : ForeignKey.ofJson key.toItems = .ok key := rfl

theorem Column.ofJson_toItems (c : Column) : Column.ofJson c.toItems = .ok c := by
  have target : Json.nullable ForeignKey.ofJson ((c.foreignKey.map ForeignKey.toItems).getD .null) =
      .ok c.foreignKey := by
    cases c.foreignKey with
    | none => rfl
    | some key => exact congrArg (Except.map some) key.ofJson_toItems
  simp [ofJson, toItems, record, Record.decode, Record.start, Record.required, Record.withDefault, Record.field,
    Json.asText, Json.asBool, Json.asInt32_ofInt, Json.nullable_ofText?, target, bind, Except.bind, pure, Except.pure]

theorem Table.ofJson_toItems (t : Table) : Table.ofJson t.toItems = .ok t := by
  have columns := Json.asList_map Column.ofJson_toItems t.columns
  simp [ofJson, toItems, record, Record.decode, Record.start, Record.required, Record.field, Json.asText, columns,
    bind, Except.bind, pure, Except.pure]

/-- What a document of settings or of a table says is written and read again as it was, by names or as arrays of
    fields, and whatever its own spelling. For that, its objects may hold members without a field, leave out defaults or
    spell them out, and give a null for what is absent. -/
theorem documents_read_back :
    (∀ s : TableSettings, TableSettings.ofJson s.toJson = .ok s ∧ TableSettings.ofJson s.toItems = .ok s) ∧
    (∀ t : Table, Table.ofJson t.toJson = .ok t ∧ Table.ofJson t.toItems = .ok t) ∧
    (∀ document s, TableSettings.ofJson document = .ok s →
      ∃ again, TableSettings.ofJson s.toJson = .ok again ∧ again.toJson = s.toJson) ∧
    (∀ document t, Table.ofJson document = .ok t →
      ∃ again, Table.ofJson t.toJson = .ok again ∧ again.toJson = t.toJson) ∧
    (TableSettings.record.Lenient "TableSettings"
        [("viewLinkPattern", .string ""), ("tableViewSelectColumns", .array []),
          ("tableViewTextFiltersCols", .array []), ("overriddenInputs", .object []), ("relations", .array [])] ∧
      InputOverride.record.Lenient "InputTypeLookup" [("isArray", .bool false), ("payload", .null)] ∧
      Relation.record.Lenient "RelationsConfig"
        [("bidirectional", .bool false), ("mainJoinColumn", .null), ("relationJoinColumn", .null)]) ∧
    Table.record.Lenient "Table" [] ∧ Column.record.Lenient "Column" [("default", .null), ("foreignKey", .null)] ∧
    ForeignKey.record.Lenient "ForeignKeyInfo" [] :=
  ⟨fun s => ⟨s.ofJson_toJson, s.ofJson_toItems⟩, fun t => ⟨t.ofJson_toJson, t.ofJson_toItems⟩,
    fun _ s _ => ⟨s, s.ofJson_toJson, rfl⟩, fun _ t _ => ⟨t, t.ofJson_toJson, rfl⟩,
    ⟨TableSettings.record_lenient, InputOverride.record_lenient, Relation.record_lenient⟩,
    Table.record_lenient, Column.record_lenient, ForeignKey.record_lenient⟩

/-- Settings with a member that has no field, one relation as an array and one with a null for a column. -/
def spelledSettings : Json :=
  .object [("owner", .string "library"),
    ("relations", .array
      [.array [.string "books", .string "authors", .string "wrote", .bool true, .null, .string "author_id"],
        .object [("joinTable", .string "tagged"), ("mainJoinColumn", .null), ("mainTable", .string "books"),
          ("relationTable", .string "tags")]])]

/-- A table as an array, with a column whose default is null and whose foreign key is left out. -/
def spelledTable : Json :=
  .array [.string "books", .string "public", .array
    [.object [("default", .null), ("isNullable", .bool false), ("isPrimaryKey", .bool true), ("isText", .bool false),
      ("name", .string "id"), ("oid", .ofInt 23), ("regType", .string "integer"), ("udtName", .string "int4")]]]

theorem documents_read_back_books :
    (∃ s : TableSettings, TableSettings.ofJson spelledSettings = .ok s ∧ s.viewColumns = [] ∧
      s.relations = [⟨"books", "authors", "wrote", true, none, some "author_id"⟩,
        ⟨"books", "tags", "tagged", false, none, none⟩] ∧
      ∃ again, TableSettings.ofJson s.toJson = .ok again ∧ again.toJson = s.toJson) ∧
    ∃ t : Table, Table.ofJson spelledTable = .ok t ∧
      t = ⟨"books", "public", [⟨"id", 23, "integer", "int4", false, false, none, true, none⟩]⟩ ∧
      ∃ again, Table.ofJson t.toJson = .ok again ∧ again.toJson = t.toJson := by
  obtain ⟨-, -, settings, tables, -⟩ := documents_read_back
  refine ⟨⟨_, rfl, rfl, rfl, settings spelledSettings _ rfl⟩, ⟨_, rfl, rfl, tables spelledTable _ rfl⟩⟩

end TableGateway
