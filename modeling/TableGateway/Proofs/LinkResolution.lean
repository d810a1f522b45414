import Mathlib
import TableGateway.Link.Resolution
import TableGateway.Proofs.Dictionaries
import TableGateway.Proofs.Firsts
import TableGateway.Proofs.ParameterPositions

/-!
# How relations resolve

Two columns of the join table make a pair if they differ and each fits its side (`JoinPair`): it refers to the table
of the side, and has the name that the relation gives for it, if any. `Link.resolve` looks for the main column first
and for the other one behind it, and still finds a pair whenever there is one, and the first (`resolve_first`): a
choice of the main column never takes away the last column of the other side. When it finds none, it blames the main
side unless a column fits that is not named for the other side (`resolve_blames`); so it blames the wrong side if the
only column for the main side is named for the other one.
-/
namespace TableGateway

/-- Tables stand under their own names, and no table has two columns of one name. -/
structure Tables.Keyed (tables : Tables) : Prop where
  named : ∀ name t, tables.get? name = some t → t.name = name
  distinct : ∀ name t, tables.get? name = some t → t.columnNames.Nodup

/-- The tables that a relation names. -/
structure Relation.Finds (relation : Relation) (tables : Tables) (main related join : Table) : Prop where
  main : tables.get? relation.mainTable = some main
  related : tables.get? relation.relationTable = some related
  join : tables.get? relation.joinTable = some join

/-- A column refers to the table of a side, and has the name given for it, if any. -/
structure Column.Fits (c : Column) (target : String) (given : Option String) : Prop where
  refers : ∃ key, c.foreignKey = some key ∧ key.tableName = target
  named : ∀ name, given = some name → c.name = name

/-- Two different columns of the join table, each of which fits its side. -/
structure JoinPair (relation : Relation) (main related join : Table) (m r : Column) : Prop where
  main_mem : m ∈ join.columns
  related_mem : r ∈ join.columns
  main_fits : m.Fits main.name relation.mainJoinColumn
  related_fits : r.Fits related.name relation.relationJoinColumn
  apart : m ≠ r

/-- Every foreign key of the join table to the related table names one of its columns. -/
def Relation.Referred (relation : Relation) (tables : Tables) : Prop :=
  ∀ related join, tables.get? relation.relationTable = some related → tables.get? relation.joinTable = some join →
    ∀ c ∈ join.columns, ∀ key, c.foreignKey = some key → key.tableName = related.name →
      key.columnName ∈ related.columnNames

theorem Column.Fits.target_eq {c : Column} {target target' : String} {given given' : Option String}
    (fits : c.Fits target given) (fits' : c.Fits target' given') : target = target' := by
  obtain ⟨key, has, rfl⟩ := fits.refers
  obtain ⟨key', has', rfl⟩ := fits'.refers
  rw [Option.some.inj (has.symm.trans has')]

/-! ## A column for a side -/

namespace Link

/-- A column fits a side, and is not kept out by its name. -/
def Allowed (target : String) (given excluded : Option String) (c : Column) : Prop :=
  c.Fits target given ∧ excluded ≠ some c.name

theorem allowed_iff {target : String} {given excluded : Option String} {c : Column} :
    c.references target = true ∧ mayJoin given excluded c = true ↔ Allowed target given excluded c := by
  have refers : c.references target = true ↔ ∃ key, c.foreignKey = some key ∧ key.tableName = target := by
    rw [Column.references, Option.any_eq_true]
    simp
  have named : given.all (fun name => decide (c.name = name)) = true ↔ ∀ name, given = some name → c.name = name := by
    rw [Option.all_eq_true]
    simp
  rw [mayJoin, Bool.and_eq_true, decide_eq_true_iff, refers, named]
  constructor
  · rintro ⟨refers, apart, named⟩
    exact ⟨⟨refers, named⟩, apart.symm⟩
  · rintro ⟨⟨refers, named⟩, apart⟩
    exact ⟨refers, apart.symm, named⟩

/-- The column for a side is the first that is allowed, and there is none only if none is allowed. -/
theorem joinColumn_cases (join : Table) (target : String) (given excluded : Option String) (side : String) :
    (∃ c, joinColumn join target given excluded side = .ok c ∧
      IsFirst (Allowed target given excluded) join.columns c) ∨
    (joinColumn join target given excluded side = .error (.noColumn side join.name) ∧
      ∀ c ∈ join.columns, ¬ Allowed target given excluded c) := by
  rw [joinColumn, Table.foreignKeysTo, List.find?_filter]
  cases found : join.columns.find? fun c => decide (c.references target = true ∧ mayJoin given excluded c = true) with
  | some c =>
    obtain ⟨allowed, before, after, parts, none_earlier⟩ := List.find?_eq_some_iff_append.mp found
    refine .inl ⟨c, rfl, allowed_iff.mp (of_decide_eq_true allowed), before, after, parts, fun earlier member => ?_⟩
    have refused := none_earlier earlier member
    rw [Bool.not_eq_true', decide_eq_false_iff_not, allowed_iff] at refused
    exact refused
  | none =>
    refine .inr ⟨rfl, fun c member => ?_⟩
    rw [← allowed_iff]
    simpa using List.find?_eq_none.mp found c member

/-! ## Both columns -/

/-- How a relation between tables resolves. -/
inductive Resolves (relation : Relation) (main related join : Table) : Except LinkError Link → Prop where
  | noMain (none_allowed : ∀ c ∈ join.columns,
        ¬ Allowed main.name relation.mainJoinColumn relation.relationJoinColumn c) :
      Resolves relation main related join (.error (.noColumn "main join column" join.name))
  | noRelated {m : Column}
      (mainColumn : IsFirst (Allowed main.name relation.mainJoinColumn relation.relationJoinColumn) join.columns m)
      (none_allowed : ∀ c ∈ join.columns, ¬ Allowed related.name relation.relationJoinColumn (some m.name) c) :
      Resolves relation main related join (.error (.noColumn "relation join column" join.name))
  | unreferred {m r : Column}
      (mainColumn : IsFirst (Allowed main.name relation.mainJoinColumn relation.relationJoinColumn) join.columns m)
      (relatedColumn : IsFirst (Allowed related.name relation.relationJoinColumn (some m.name)) join.columns r)
      (unreferred : referredColumn? r related = none) :
      Resolves relation main related join (.error (.noColumn "referenced relation column" join.name))
  | resolved {m r key : Column}
      (mainColumn : IsFirst (Allowed main.name relation.mainJoinColumn relation.relationJoinColumn) join.columns m)
      (relatedColumn : IsFirst (Allowed related.name relation.relationJoinColumn (some m.name)) join.columns r)
      (referred : referredColumn? r related = some key) :
      Resolves relation main related join (.ok ⟨relation, main, related, join, m, r, key⟩)

section
variable {tables : Tables} {relation : Relation} {main related join : Table}

theorem resolve_resolves (finds : relation.Finds tables main related join) :
    Resolves relation main related join (resolve tables relation) := by
  simp only [resolve, tableOf, finds.main, finds.related, finds.join, bind, Except.bind]
  obtain ⟨m, found, mainColumn⟩ | ⟨missed, none_allowed⟩ := joinColumn_cases join main.name relation.mainJoinColumn
    relation.relationJoinColumn "main join column"
  · simp only [found]
    obtain ⟨r, found, relatedColumn⟩ | ⟨missed, none_allowed⟩ := joinColumn_cases join related.name
      relation.relationJoinColumn (some m.name) "relation join column"
    · simp only [found]
      cases referred : referredColumn? r related with
      | some key => exact .resolved mainColumn relatedColumn referred
      | none => exact .unreferred mainColumn relatedColumn referred
    · simp only [missed]
      exact .noRelated mainColumn none_allowed
  · simp only [missed]
    exact .noMain none_allowed

theorem finds_of_resolve {link : Link} (resolved : resolve tables relation = .ok link) :
    ∃ main related join, relation.Finds tables main related join := by
  cases main : tables.get? relation.mainTable with
  | none => simp [resolve, tableOf, main, bind, Except.bind] at resolved
  | some mainTable =>
    cases related : tables.get? relation.relationTable with
    | none => simp [resolve, tableOf, main, related, bind, Except.bind] at resolved
    | some relatedTable =>
      cases join : tables.get? relation.joinTable with
      | none => simp [resolve, tableOf, main, related, join, bind, Except.bind] at resolved
      | some joinTable => exact ⟨mainTable, relatedTable, joinTable, main, related, join⟩

/-! ## Pairs -/

variable {m r c : Column}

theorem name_ne_of_ne (distinct : join.columnNames.Nodup) (m_mem : m ∈ join.columns) (r_mem : r ∈ join.columns)
    (apart : m ≠ r) : m.name ≠ r.name :=
  fun same => apart (List.inj_on_of_nodup_map distinct m_mem r_mem same)

/-- The main column of a pair is not kept out by the name for the other side. -/
theorem allowed_of_pair (distinct : join.columnNames.Nodup) (pair : JoinPair relation main related join m r) :
    Allowed main.name relation.mainJoinColumn relation.relationJoinColumn m := by
  refine ⟨pair.main_fits, fun given => ?_⟩
  exact name_ne_of_ne distinct pair.main_mem pair.related_mem pair.apart (pair.related_fits.named _ given).symm

/-- If there is a pair at all, each main column that is allowed is in one. -/
theorem exists_pair (pair : JoinPair relation main related join m r) (member : c ∈ join.columns)
    (allowed : Allowed main.name relation.mainJoinColumn relation.relationJoinColumn c) :
    ∃ r', JoinPair relation main related join c r' := by
  by_cases taken : c = r
  · -- The choice took the other column of the pair. It fits both sides, so their tables are one, and `m` fits both.
    subst taken
    have ungiven : ∀ name, relation.relationJoinColumn ≠ some name := by
      intro name given
      exact allowed.2 (given.trans (congrArg some (pair.related_fits.named name given).symm))
    have refers := pair.main_fits.refers
    rw [allowed.1.target_eq pair.related_fits] at refers
    exact ⟨m, member, pair.main_mem, allowed.1, ⟨refers, fun name given => absurd given (ungiven name)⟩,
      pair.apart.symm⟩
  · exact ⟨r, member, pair.related_mem, allowed.1, pair.related_fits, taken⟩

theorem pair_iff (distinct : join.columnNames.Nodup) (m_mem : m ∈ join.columns)
    (fits : m.Fits main.name relation.mainJoinColumn) (member : c ∈ join.columns) :
    Allowed related.name relation.relationJoinColumn (some m.name) c ↔ JoinPair relation main related join m c := by
  constructor
  · rintro ⟨related_fits, apart⟩
    exact ⟨m_mem, member, fits, related_fits, fun same => apart (congrArg (some ·.name) same)⟩
  · intro pair
    exact ⟨pair.related_fits, fun same => name_ne_of_ne distinct m_mem member pair.apart (Option.some.inj same)⟩

/-- The first main column that is allowed is the first in a pair, if there is a pair. -/
theorem isFirst_pair (distinct : join.columnNames.Nodup)
    (mainColumn : IsFirst (Allowed main.name relation.mainJoinColumn relation.relationJoinColumn) join.columns c)
    (pair : JoinPair relation main related join m r) :
    IsFirst (fun m => ∃ r, JoinPair relation main related join m r) join.columns c :=
  mainColumn.congr fun _ member =>
    ⟨exists_pair pair member, fun ⟨_, paired⟩ => allowed_of_pair distinct paired⟩

theorem referredColumn?_eq_some_iff (distinct : related.columnNames.Nodup) {key : Column} :
    referredColumn? r related = some key ↔
      ∃ foreign, r.foreignKey = some foreign ∧ key ∈ related.columns ∧ key.name = foreign.columnName := by
  rw [referredColumn?, Option.bind_eq_some_iff]
  simp only [Table.column?_eq_some_iff distinct]

theorem referredColumn?_ne_none (keyed : tables.Keyed) (referred : relation.Referred tables)
    (finds : relation.Finds tables main related join) (member : r ∈ join.columns)
    (fits : r.Fits related.name relation.relationJoinColumn) : referredColumn? r related ≠ none := by
  obtain ⟨foreign, has, target⟩ := fits.refers
  obtain ⟨key, key_mem, named⟩ :=
    List.mem_map.mp (referred related join finds.related finds.join r member foreign has target)
  have distinct := keyed.distinct _ _ finds.related
  rw [(referredColumn?_eq_some_iff distinct).mpr ⟨foreign, has, key_mem, named⟩]
  nofun

/-- The link by the first pair: by the first main column that is in one, and the first column that makes a pair with
    it. Its key column is the one that the latter's foreign key names. -/
structure ByFirstPair (tables : Tables) (relation : Relation) (link : Link) : Prop where
  relation_eq : link.relation = relation
  finds : relation.Finds tables link.main link.related link.join
  mainColumn : IsFirst (fun m => ∃ r, JoinPair relation link.main link.related link.join m r) link.join.columns
    link.mainColumn
  relatedColumn : IsFirst (JoinPair relation link.main link.related link.join link.mainColumn) link.join.columns
    link.relatedColumn
  keyColumn : ∃ foreign, link.relatedColumn.foreignKey = some foreign ∧ link.keyColumn ∈ link.related.columns ∧
    link.keyColumn.name = foreign.columnName

theorem byFirstPair_of_resolve (keyed : tables.Keyed) {link : Link} (resolved : resolve tables relation = .ok link) :
    ByFirstPair tables relation link := by
  obtain ⟨main, related, join, finds⟩ := finds_of_resolve resolved
  have resolves := resolve_resolves finds
  rw [resolved] at resolves
  cases resolves with
  | resolved mainColumn relatedColumn referred =>
    have distinct := keyed.distinct _ _ finds.join
    have second := relatedColumn.congr fun c member => pair_iff distinct mainColumn.mem mainColumn.1.1 member
    exact ⟨rfl, finds, isFirst_pair distinct mainColumn second.1, second,
      (referredColumn?_eq_some_iff (keyed.distinct _ _ finds.related)).mp referred⟩

theorem resolve_of_pair (keyed : tables.Keyed) (referred : relation.Referred tables)
    (finds : relation.Finds tables main related join) (pair : JoinPair relation main related join m r) :
    ∃ link, resolve tables relation = .ok link := by
  have distinct := keyed.distinct _ _ finds.join
  have resolves := resolve_resolves finds
  generalize resolve tables relation = outcome at resolves ⊢
  cases resolves with
  | noMain none_allowed => exact absurd (allowed_of_pair distinct pair) (none_allowed m pair.main_mem)
  | noRelated mainColumn none_allowed =>
    -- The column chosen for the main side need not be `m`, but is in a pair as well.
    obtain ⟨r', pair'⟩ := exists_pair pair mainColumn.mem mainColumn.1
    have allowed := (pair_iff distinct mainColumn.mem mainColumn.1.1 pair'.related_mem).mpr pair'
    exact absurd allowed (none_allowed r' pair'.related_mem)
  | unreferred _ relatedColumn unreferred =>
    exact absurd unreferred (referredColumn?_ne_none keyed referred finds relatedColumn.mem relatedColumn.1.1)
  | resolved => exact ⟨_, rfl⟩

end

/-! ## Users, with tags and friends -/

def idColumn : Column := ⟨"id", 23, "integer", "int4", false, false, none, true, none⟩

/-- A column with a foreign key to the `id` of a table. -/
def referring (name target : String) : Column :=
  ⟨name, 23, "integer", "int4", false, false, none, false, some ⟨target, "id", name ++ "_fkey"⟩⟩

def keyTable (name : String) : Table := ⟨name, "public", [idColumn]⟩

def userTags : Table := ⟨"user_tags", "public", [referring "user_id" "users", referring "tag_id" "tags"]⟩

def userFriends : Table := ⟨"friends", "public", [referring "user_a" "users", referring "user_b" "users"]⟩

def usersAndTags : Tables :=
  .ofList [("users", keyTable "users"), ("tags", keyTable "tags"), ("user_tags", userTags), ("friends", userFriends)]

theorem usersAndTags_keyed : usersAndTags.Keyed := by
  refine ⟨fun name t found => ?_, fun name t found => ?_⟩
  all_goals
    have listed := Dict.mem_of_get?_ofList found
    simp only [List.mem_cons, Prod.mk.injEq, List.not_mem_nil, or_false] at listed
    obtain ⟨rfl, rfl⟩ | ⟨rfl, rfl⟩ | ⟨rfl, rfl⟩ | ⟨rfl, rfl⟩ := listed
  all_goals decide

/-! ## The first pair -/

/-- A relation resolves if and only if its three tables exist and two different columns of the join table fit its
    sides, and it resolves to the first such pair. -/
theorem resolve_first {tables : Tables} {relation : Relation} (keyed : tables.Keyed)
    (referred : relation.Referred tables) :
    ((∃ link, resolve tables relation = .ok link) ↔
      ∃ main related join m r, relation.Finds tables main related join ∧ JoinPair relation main related join m r) ∧
    ∀ link, resolve tables relation = .ok link → ByFirstPair tables relation link := by
  refine ⟨⟨?_, ?_⟩, fun link => byFirstPair_of_resolve keyed⟩
  · rintro ⟨link, resolved⟩
    have first := byFirstPair_of_resolve keyed resolved
    exact ⟨_, _, _, _, _, first.finds, first.relatedColumn.1⟩
  · rintro ⟨main, related, join, m, r, finds, pair⟩
    exact resolve_of_pair keyed referred finds pair

/-- The friends of users, where a friend is told by the first column. -/
def friendsByFirst : Relation := ⟨"users", "users", "friends", true, none, some "user_a"⟩

theorem resolve_first_friends :
    (usersAndTags.Keyed ∧ friendsByFirst.Referred usersAndTags) ∧
    ∃ link, resolve usersAndTags friendsByFirst = .ok link ∧ ByFirstPair usersAndTags friendsByFirst link ∧
      link.mainColumn = referring "user_b" "users" := by
  have referred : friendsByFirst.Referred usersAndTags := by
    intro related join related_found join_found c member foreign has target
    obtain rfl : keyTable "users" = related := Option.some.inj related_found
    obtain rfl : userFriends = join := Option.some.inj join_found
    simp only [userFriends, List.mem_cons, List.not_mem_nil, or_false] at member
    obtain rfl | rfl := member <;> cases has <;> decide
  obtain ⟨resolves, first⟩ := resolve_first usersAndTags_keyed referred
  have pair : JoinPair friendsByFirst (keyTable "users") (keyTable "users") userFriends (referring "user_b" "users")
      (referring "user_a" "users") :=
    ⟨by decide, by decide, ⟨⟨_, rfl, rfl⟩, nofun⟩, ⟨⟨_, rfl, rfl⟩, fun name given => Option.some.inj given⟩, by decide⟩
  obtain ⟨link, resolved⟩ := resolves.mpr ⟨_, _, _, _, _, ⟨rfl, rfl, rfl⟩, pair⟩
  refine ⟨⟨usersAndTags_keyed, referred⟩, link, resolved, first link resolved, ?_⟩
  cases resolved
  rfl

/-! ## The side that is blamed -/

/-- The cause is the side that is missing: the main side if no column fits it, and the other side if one fits the
    main side and none fits the other. -/
structure BlamesMissing (tables : Tables) (relation : Relation) (main related join : Table) : Prop where
  mainSide : resolve tables relation = .error (.noColumn "main join column" join.name) ↔
    ∀ c ∈ join.columns, ¬ c.Fits main.name relation.mainJoinColumn
  relatedSide : resolve tables relation = .error (.noColumn "relation join column" join.name) ↔
    (∃ c ∈ join.columns, c.Fits main.name relation.mainJoinColumn) ∧
      ∀ c ∈ join.columns, ¬ c.Fits related.name relation.relationJoinColumn

section
variable {tables : Tables} {relation : Relation} {main related join : Table}

theorem main_blamed_iff (finds : relation.Finds tables main related join) :
    resolve tables relation = .error (.noColumn "main join column" join.name) ↔
      ∀ c ∈ join.columns, ¬ Allowed main.name relation.mainJoinColumn relation.relationJoinColumn c := by
  have resolves := resolve_resolves finds
  generalize resolve tables relation = outcome at resolves
  cases resolves with
  | noMain none_allowed => simpa using none_allowed
  | noRelated mainColumn _ => simpa using ⟨_, mainColumn.mem, mainColumn.1⟩
  | unreferred mainColumn _ _ => simpa using ⟨_, mainColumn.mem, mainColumn.1⟩
  | resolved mainColumn _ _ => simpa using ⟨_, mainColumn.mem, mainColumn.1⟩

/-- Where the tables of the sides differ, no column fits both, so the choice for the main side takes none away. -/
theorem allowed_related_iff (distinct : join.columnNames.Nodup) (apart : main.name ≠ related.name) {m c : Column}
    (m_mem : m ∈ join.columns) (fits : m.Fits main.name relation.mainJoinColumn) (member : c ∈ join.columns) :
    Allowed related.name relation.relationJoinColumn (some m.name) c ↔
      c.Fits related.name relation.relationJoinColumn := by
  refine ⟨fun allowed => allowed.1, fun related_fits => ⟨related_fits, fun same => ?_⟩⟩
  obtain rfl : m = c := List.inj_on_of_nodup_map distinct m_mem member (Option.some.inj same)
  exact apart (fits.target_eq related_fits)

theorem related_blamed_iff (keyed : tables.Keyed) (finds : relation.Finds tables main related join)
    (apart : main.name ≠ related.name) :
    resolve tables relation = .error (.noColumn "relation join column" join.name) ↔
      (∃ c ∈ join.columns, Allowed main.name relation.mainJoinColumn relation.relationJoinColumn c) ∧
        ∀ c ∈ join.columns, ¬ c.Fits related.name relation.relationJoinColumn := by
  have distinct := keyed.distinct _ _ finds.join
  have resolves := resolve_resolves finds
  generalize resolve tables relation = outcome at resolves
  cases resolves with
  | noMain none_allowed => simpa using fun c member allowed => absurd allowed (none_allowed c member)
  | noRelated mainColumn none_allowed =>
    simp only [true_iff]
    refine ⟨⟨_, mainColumn.mem, mainColumn.1⟩, fun c member fits => none_allowed c member ?_⟩
    exact (allowed_related_iff distinct apart mainColumn.mem mainColumn.1.1 member).mpr fits
  | unreferred mainColumn relatedColumn _ => simpa using fun c _ _ => ⟨_, relatedColumn.mem, relatedColumn.1.1⟩
  | resolved mainColumn relatedColumn _ => simpa using fun c _ _ => ⟨_, relatedColumn.mem, relatedColumn.1.1⟩

end

/-- Between different tables, the main side is blamed if each column that fits it is named for the other side, and
    the other side if some column that fits the main side is not, and none fits the other. So the side that is
    missing is blamed unless columns fit the main side and all of them are named for the other one. -/
theorem resolve_blames {tables : Tables} {relation : Relation} {main related join : Table} (keyed : tables.Keyed)
    (finds : relation.Finds tables main related join) (apart : relation.mainTable ≠ relation.relationTable) :
    (resolve tables relation = .error (.noColumn "main join column" join.name) ↔
      ∀ c ∈ join.columns, c.Fits main.name relation.mainJoinColumn → relation.relationJoinColumn = some c.name) ∧
    (resolve tables relation = .error (.noColumn "relation join column" join.name) ↔
      (∃ c ∈ join.columns, c.Fits main.name relation.mainJoinColumn ∧ relation.relationJoinColumn ≠ some c.name) ∧
        ∀ c ∈ join.columns, ¬ c.Fits related.name relation.relationJoinColumn) ∧
    (BlamesMissing tables relation main related join ↔
      ((∃ c ∈ join.columns, c.Fits main.name relation.mainJoinColumn) →
        ∃ c ∈ join.columns, c.Fits main.name relation.mainJoinColumn ∧ relation.relationJoinColumn ≠ some c.name)) := by
  have names_apart : main.name ≠ related.name := by
    rwa [keyed.named _ _ finds.main, keyed.named _ _ finds.related]
  have main_blamed := main_blamed_iff finds
  have related_blamed := related_blamed_iff keyed finds names_apart
  have kept_out : (∀ c ∈ join.columns, ¬ Allowed main.name relation.mainJoinColumn relation.relationJoinColumn c) ↔
      ∀ c ∈ join.columns, c.Fits main.name relation.mainJoinColumn → relation.relationJoinColumn = some c.name := by
    simp only [Allowed, not_and, ne_eq, not_not]
  refine ⟨main_blamed.trans kept_out, related_blamed, ?_, ?_⟩
  · rintro blames ⟨c, member, fits⟩
    by_contra none_allowed
    -- All columns that fit are kept out, so the main side is blamed although one fits.
    have blamed := main_blamed.mpr fun c member allowed => none_allowed ⟨c, member, allowed⟩
    exact blames.mainSide.mp blamed c member fits
  · intro allowed_of_fits
    have allowed_iff_fits :
        (∃ c ∈ join.columns, Allowed main.name relation.mainJoinColumn relation.relationJoinColumn c) ↔
          ∃ c ∈ join.columns, c.Fits main.name relation.mainJoinColumn :=
      ⟨fun ⟨c, member, allowed⟩ => ⟨c, member, allowed.1⟩, allowed_of_fits⟩
    refine ⟨?_, by rw [related_blamed, allowed_iff_fits]⟩
    rw [main_blamed]
    simpa using not_congr allowed_iff_fits

/-- The tags of users, where the tags are told by the column for the users. -/
def tagsByUser : Relation := ⟨"users", "tags", "user_tags", false, none, some "user_id"⟩

theorem tagsByUser_finds : tagsByUser.Finds usersAndTags (keyTable "users") (keyTable "tags") userTags :=
  ⟨rfl, rfl, rfl⟩

/-- A column fits the users, and none fits the tags, since the one that is named for them refers to the users; yet
    the side of the users is blamed. -/
theorem blames_present_side :
    (usersAndTags.Keyed ∧ tagsByUser.Finds usersAndTags (keyTable "users") (keyTable "tags") userTags ∧
      tagsByUser.mainTable ≠ tagsByUser.relationTable) ∧
    resolve usersAndTags tagsByUser = .error (.noColumn "main join column" "user_tags") ∧
    (∃ c ∈ userTags.columns, c.Fits "users" tagsByUser.mainJoinColumn) ∧
    (∀ c ∈ userTags.columns, ¬ c.Fits "tags" tagsByUser.relationJoinColumn) ∧
    ¬ BlamesMissing usersAndTags tagsByUser (keyTable "users") (keyTable "tags") userTags := by
  have blamed : resolve usersAndTags tagsByUser = .error (.noColumn "main join column" "user_tags") := by rfl
  have fits : (referring "user_id" "users").Fits "users" tagsByUser.mainJoinColumn := ⟨⟨_, rfl, rfl⟩, nofun⟩
  have member : referring "user_id" "users" ∈ userTags.columns := .head _
  refine ⟨⟨usersAndTags_keyed, tagsByUser_finds, by decide⟩, blamed, ⟨_, member, fits⟩, fun c listed fits => ?_,
    fun blames => ?_⟩
  · simp only [userTags, List.mem_cons, List.not_mem_nil, or_false] at listed
    obtain rfl | rfl := listed
    · obtain ⟨_, ⟨⟩, same⟩ := fits.refers
      exact absurd same (by decide)
    · exact absurd (fits.named _ rfl) (by decide)
  · exact blames.mainSide.mp blamed _ member fits

theorem resolve_blames_tags :
    (usersAndTags.Keyed ∧ tagsByUser.Finds usersAndTags (keyTable "users") (keyTable "tags") userTags ∧
      tagsByUser.mainTable ≠ tagsByUser.relationTable) ∧
    (resolve usersAndTags tagsByUser = .error (.noColumn "main join column" "user_tags") ↔
      ∀ c ∈ userTags.columns, c.Fits "users" tagsByUser.mainJoinColumn →
        tagsByUser.relationJoinColumn = some c.name) ∧
    (BlamesMissing usersAndTags tagsByUser (keyTable "users") (keyTable "tags") userTags ↔
      ((∃ c ∈ userTags.columns, c.Fits "users" tagsByUser.mainJoinColumn) →
        ∃ c ∈ userTags.columns, c.Fits "users" tagsByUser.mainJoinColumn ∧
          tagsByUser.relationJoinColumn ≠ some c.name)) := by
  have apart : tagsByUser.mainTable ≠ tagsByUser.relationTable := by decide
  obtain ⟨blames_main, -, blames_missing⟩ := resolve_blames usersAndTags_keyed tagsByUser_finds apart
  exact ⟨⟨usersAndTags_keyed, tagsByUser_finds, apart⟩, blames_main, blames_missing⟩

end Link
end TableGateway
