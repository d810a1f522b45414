import Mathlib
import TableGateway.Sql.Statement

/-!
# Pages of a listing

A database lists rows in any order that its `ORDER BY` allows (`Lists`), and may choose another one for each page. A
listing without an order of its own is ordered by the first column of the primary key, which ranks two rows if and
only if they differ in it. Where it ranks any two rows, all pages are cut from one order, so pages that follow each
other hold every row once. So they do for every set of rows that the primary key tells apart if the key has no other
column, and only then (`pages_stable_iff`).
-/
namespace TableGateway

/-- What a row holds: a value for each column name. -/
abbrev RowValues (Value : String → Type) := (name : String) → Value name

section
variable {Value : String → Type} [∀ name, LinearOrder (Value name)]

def Direction.Before {α : Type} [LT α] : Direction → α → α → Prop
  | .ascending, first, second => first < second
  | .descending, first, second => second < first

/-- The first of the terms in which two rows differ puts the one before the other. -/
def Ranks : List (Column × Direction) → RowValues Value → RowValues Value → Prop
  | [], _, _ => False
  | (c, direction) :: rest, row, other =>
    direction.Before (row c.name) (other c.name) ∨ row c.name = other c.name ∧ Ranks rest row other

/-- An order in which rows may be listed: none stands behind one that it ranks before. -/
structure Lists (terms : List (Column × Direction)) (rows listed : List (RowValues Value)) : Prop where
  perm : listed.Perm rows
  ranked : listed.Pairwise fun row later => ¬ Ranks terms later row

def Page.cut {α : Type} (page : Page) (rows : List α) : List α :=
  (rows.drop page.offset.toNat).take page.limit.toNat

/-- What may be given for a listing of a table, of whose rows these meet the filter. -/
def Listing.MayGive (listing : Listing) (table : Table) (rows given : List (RowValues Value)) : Prop :=
  ∃ listed, Lists (listing.order.effectiveTerms table) rows listed ∧ given = listing.page.cut listed

/-- Pages of one limit, each right behind the one before. -/
def Page.Consecutive (limit : UInt32) (pages : List Page) : Prop :=
  ∀ k page, pages[k]? = some page → page.limit = limit ∧ page.offset.toNat = k * limit.toNat

/-- Whatever is given for pages that reach behind the last row, they hold every row once. -/
def Listing.StableOn (listing : Listing) (table : Table) (rows : List (RowValues Value)) : Prop :=
  ∀ limit pages (given : List (List (RowValues Value))), Page.Consecutive limit pages →
    rows.length ≤ pages.length * limit.toNat →
    List.Forall₂ (fun page part => { listing with page }.MayGive table rows part) pages given →
    given.flatten.Perm rows

/-- The primary key tells any two rows apart. -/
def Table.KeyDistinct (table : Table) (rows : List (RowValues Value)) : Prop :=
  rows.Pairwise fun row other => ∃ c ∈ table.columns, c.isPrimaryKey = true ∧ row c.name ≠ other c.name

/-! ## One order -/

/-- Where terms rank any two rows, there is one order to list them. -/
theorem Lists.unique {terms : List (Column × Direction)} {rows first second : List (RowValues Value)}
    (ranks : ∀ row ∈ rows, ∀ other ∈ rows, row ≠ other → Ranks terms row other ∨ Ranks terms other row)
    (lists : Lists terms rows first) (lists' : Lists terms rows second) : first = second := by
  refine List.Perm.eq_of_pairwise ?_ lists.ranked lists'.ranked (lists.perm.trans lists'.perm.symm)
  intro row other member member' before after
  by_contra differ
  exact (ranks row (lists.perm.subset member) other (lists'.perm.subset member') differ).elim after before

theorem Page.Consecutive.flatten_cut {α : Type} {limit : UInt32} {pages : List Page}
    (consecutive : Consecutive limit pages) (rows : List α) :
    (pages.map fun page => page.cut rows).flatten = rows.take (pages.length * limit.toNat) := by
  induction pages using List.reverseRecOn with
  | nil => simp
  | append_singleton pages last ih =>
    have earlier : Consecutive limit pages := fun k page found =>
      consecutive k page (by rw [List.getElem?_append_left (List.getElem?_eq_some_iff.mp found).1, found])
    obtain ⟨limit_eq, offset_eq⟩ := consecutive pages.length last (by simp)
    rw [List.map_append, List.flatten_append, ih earlier, List.length_append, List.length_singleton, Nat.add_mul,
      Nat.one_mul, List.take_add, List.map_singleton, List.flatten_singleton, Page.cut, limit_eq, offset_eq]

/-- Then the pages are cut from that order, and together are the whole of it. -/
theorem Listing.stableOn_of_ranks {listing : Listing} {table : Table} {rows : List (RowValues Value)}
    (ranks : ∀ row ∈ rows, ∀ other ∈ rows, row ≠ other →
      Ranks (listing.order.effectiveTerms table) row other ∨ Ranks (listing.order.effectiveTerms table) other row) :
    listing.StableOn table rows := by
  intro limit pages given consecutive covered answers
  cases answers with
  | nil =>
    obtain rfl : rows = [] := List.length_eq_zero_iff.mp (by simpa using covered)
    exact .refl []
  | @cons page part pages parts first others =>
    -- Any page tells the one order that all of them are cut from.
    obtain ⟨listed, lists, rfl⟩ := first
    have cut_of_given (page : Page) (part : List (RowValues Value))
        (given : { listing with page }.MayGive table rows part) : page.cut listed = part := by
      obtain ⟨listed', lists', rfl⟩ := given
      rw [lists.unique ranks lists']
    have cuts : pages.map (fun page => page.cut listed) = parts := by
      rw [← List.forall₂_eq_eq_eq, List.forall₂_map_left_iff]
      exact others.imp cut_of_given
    rw [← cuts]
    change ((page :: pages).map fun page => page.cut listed).flatten.Perm rows
    rw [consecutive.flatten_cut, List.take_of_length_le (by rwa [lists.perm.length_eq])]
    exact lists.perm

/-! ## The order by the key -/

namespace Listing

def atMost (name : String) (row later : RowValues Value) : Bool :=
  row name ≤ later name

section
variable {listing : Listing} {table : Table} {key : Column} (keyed : table.primaryKey? = some key)
  (unsorted : ∀ field ∈ listing.order, table.column? field.name = none)
include keyed unsorted

/-- A listing without an order of its own is ordered by the first column of the primary key. -/
theorem effectiveTerms_key :
    ∃ c, listing.order.effectiveTerms table = [(c, .ascending)] ∧ c.name = key.name := by
  have no_terms : listing.order.terms table = [] := by
    rw [Order.terms, List.filterMap_eq_nil_iff]
    intro field member
    rw [unsorted field member, Option.map_none]
  obtain ⟨c, found⟩ : ∃ c, table.column? key.name = some c :=
    Option.isSome_iff_exists.mp (List.find?_isSome.mpr ⟨key, List.mem_of_find?_eq_some keyed, by simp⟩)
  refine ⟨c, ?_, by simpa using List.find?_some found⟩
  rw [Order.effectiveTerms, no_terms]
  simp only [Order.byKey, keyed, Order.terms, List.filterMap_cons, found, Option.map_some, List.filterMap_nil]

theorem clause_key : Order.clause (listing.order.effectiveTerms table) = "ORDER BY " ++ key.quotedName ++ " ASC" := by
  obtain ⟨c, terms, named⟩ := effectiveTerms_key keyed unsorted
  have quoted : c.quotedName = key.quotedName := by rw [Column.quotedName, named, ← Column.quotedName]
  calc Order.clause (listing.order.effectiveTerms table)
      = "ORDER BY " ++ (c.quotedName ++ " " ++ Direction.ascending.text) := by rw [terms]; rfl
    _ = "ORDER BY " ++ (key.quotedName ++ (" " ++ "ASC")) := by rw [quoted, String.append_assoc]; rfl
    _ = "ORDER BY " ++ key.quotedName ++ " ASC" := by rw [← String.append_assoc]; rfl

theorem ranks_key_iff (row other : RowValues Value) :
    Ranks (listing.order.effectiveTerms table) row other ↔ row key.name < other key.name := by
  obtain ⟨c, terms, named⟩ := effectiveTerms_key keyed unsorted
  rw [terms, ← named]
  simp [Ranks, Direction.Before]

theorem exists_lists (rows : List (RowValues Value)) :
    ∃ listed, Lists (listing.order.effectiveTerms table) rows listed := by
  have sorted : (rows.mergeSort (atMost key.name)).Pairwise fun row later => atMost key.name row later = true := by
    refine List.pairwise_mergeSort (fun row between later => ?_) (fun row later => ?_) rows
    · simpa [atMost] using le_trans
    · simpa [atMost] using le_total (row key.name) (later key.name)
  refine ⟨rows.mergeSort (atMost key.name), List.mergeSort_perm .., sorted.imp fun le => ?_⟩
  rw [ranks_key_iff keyed unsorted]
  exact not_lt.mpr (of_decide_eq_true le)

theorem ranks_of_nodup {rows : List (RowValues Value)} (distinct : (rows.map fun row => row key.name).Nodup) :
    ∀ row ∈ rows, ∀ other ∈ rows, row ≠ other →
      Ranks (listing.order.effectiveTerms table) row other ∨ Ranks (listing.order.effectiveTerms table) other row := by
  intro row member other member' differ
  rw [ranks_key_iff keyed unsorted, ranks_key_iff keyed unsorted]
  exact lt_or_gt_of_ne fun same => differ (List.inj_on_of_nodup_map distinct member member' same)

theorem existsUnique_lists {rows : List (RowValues Value)} (distinct : (rows.map fun row => row key.name).Nodup) :
    ∃! listed, Lists (listing.order.effectiveTerms table) rows listed := by
  obtain ⟨listed, lists⟩ := exists_lists keyed unsorted rows
  exact ⟨listed, lists, fun _ lists' => lists'.unique (ranks_of_nodup keyed unsorted distinct) lists⟩

theorem stableOn_of_nodup {rows : List (RowValues Value)} (distinct : (rows.map fun row => row key.name).Nodup) :
    listing.StableOn table rows :=
  stableOn_of_ranks (ranks_of_nodup keyed unsorted distinct)

/-- Rows that agree in the first column of the key may be listed in any order. -/
theorem lists_of_key_eq {rows listed : List (RowValues Value)} (perm : listed.Perm rows)
    (same : ∀ row ∈ rows, ∀ other ∈ rows, row key.name = other key.name) :
    Lists (listing.order.effectiveTerms table) rows listed where
  perm := perm
  ranked := by
    refine List.pairwise_of_forall_mem_list fun row member later member' => ?_
    rw [ranks_key_iff keyed unsorted, same later (perm.subset member') row (perm.subset member)]
    exact lt_irrefl _

/-- Of two rows that agree in the first column of the key, one may be given on both of two pages. -/
theorem not_stableOn_of_key_eq {row other : RowValues Value} (differ : row ≠ other)
    (same : row key.name = other key.name) : ¬ listing.StableOn table [row, other] := by
  intro stable
  have lists {listed : List (RowValues Value)} (perm : listed.Perm [row, other]) :
      Lists (listing.order.effectiveTerms table) [row, other] listed :=
    lists_of_key_eq keyed unsorted perm (by simp [same])
  have consecutive : Page.Consecutive 1 [⟨1, 0⟩, ⟨1, 1⟩] := by
    rintro (_ | _ | k) page found <;> cases found <;> exact ⟨rfl, rfl⟩
  -- The rows are tied, so each may stand first: one order for the first page, the other one for the second.
  have twice : [[row], [row]].flatten.Perm [row, other] :=
    stable 1 [⟨1, 0⟩, ⟨1, 1⟩] [[row], [row]] consecutive le_rfl
      (.cons ⟨[row, other], lists (.refl _), rfl⟩ (.cons ⟨[other, row], lists (.swap ..), rfl⟩ .nil))
  have missed : other ∈ [row] ++ [row] := twice.mem_iff.mpr (by simp)
  simp [differ.symm] at missed

end

end Listing

omit [∀ name, LinearOrder (Value name)] in
/-- A key of one column is distinct in it. -/
theorem Table.KeyDistinct.nodup_map {table : Table} {key : Column} {rows : List (RowValues Value)}
    (distinct : table.KeyDistinct rows) (alone : ∀ c ∈ table.columns, c.isPrimaryKey = true → c.name = key.name) :
    (rows.map fun row => row key.name).Nodup := by
  rw [List.Nodup, List.pairwise_map]
  refine distinct.imp fun {row other} ⟨c, member, keyed, differ⟩ => ?_
  rwa [← alone c member keyed]

end

/-- Two rows that differ in one column only. -/
def rowPair (name : String) : List (RowValues fun _ => ℕ) :=
  [fun _ => 0, Function.update (fun _ => 0) name 1]

/-- A key of several columns tells rows apart that its first column does not. -/
theorem rowPair_not_stableOn {listing : Listing} {table : Table} {key c : Column} (keyed : table.primaryKey? = some key)
    (unsorted : ∀ field ∈ listing.order, table.column? field.name = none) (member : c ∈ table.columns)
    (inKey : c.isPrimaryKey = true) (further : c.name ≠ key.name) :
    table.KeyDistinct (rowPair c.name) ∧ ¬ listing.StableOn table (rowPair c.name) := by
  constructor
  · refine List.pairwise_pair.mpr ⟨c, member, inKey, ?_⟩
    simp
  · refine Listing.not_stableOn_of_key_eq keyed unsorted (fun same => ?_) ?_
    · simpa using congrFun same c.name
    · simp [Function.update_of_ne further.symm]

/-- A listing without an order of its own is ordered by the first column of the primary key. Rows that it tells apart
    have one order and stable pages; and all rows that the whole key tells apart have stable pages if and only if it
    has no other column. -/
theorem pages_stable_iff {listing : Listing} {table : Table} {key : Column} (keyed : table.primaryKey? = some key)
    (unsorted : ∀ field ∈ listing.order, table.column? field.name = none) :
    (Sql.select table listing).text =
      Sql.joinClauses [Sql.selectHead table listing.selection, (listing.filter.condition table).text,
        "ORDER BY " ++ key.quotedName ++ " ASC", listing.page.text] ∧
    (∀ (Value : String → Type) [∀ name, LinearOrder (Value name)] (row other : RowValues Value),
      Ranks (listing.order.effectiveTerms table) row other ∨ Ranks (listing.order.effectiveTerms table) other row ↔
        row key.name ≠ other key.name) ∧
    (∀ (Value : String → Type) [∀ name, LinearOrder (Value name)] (rows : List (RowValues Value)),
      (rows.map fun row => row key.name).Nodup →
        (∃! listed, Lists (listing.order.effectiveTerms table) rows listed) ∧ listing.StableOn table rows) ∧
    ((∀ c ∈ table.columns, c.isPrimaryKey = true → c.name = key.name) ↔
      ∀ (Value : String → Type) [∀ name, LinearOrder (Value name)] (rows : List (RowValues Value)),
        table.KeyDistinct rows → listing.StableOn table rows) := by
  refine ⟨?_, ?_, ?_, ?_⟩
  · rw [← Listing.clause_key keyed unsorted]
    rfl
  · intro Value _ row other
    rw [Listing.ranks_key_iff keyed unsorted, Listing.ranks_key_iff keyed unsorted]
    exact lt_or_lt_iff_ne
  · intro Value _ rows distinct
    exact ⟨Listing.existsUnique_lists keyed unsorted distinct, Listing.stableOn_of_nodup keyed unsorted distinct⟩
  · constructor
    · intro alone Value _ rows distinct
      exact Listing.stableOn_of_nodup keyed unsorted (distinct.nodup_map alone)
    · intro stable c member inKey
      by_contra further
      obtain ⟨distinct, unstable⟩ := rowPair_not_stableOn keyed unsorted member inKey further
      exact unstable (stable _ _ distinct)

def codeColumn (name : String) : Column :=
  ⟨name, 25, "text", "text", true, false, none, true, some ⟨"codes", "code", "friends_" ++ name ++ "_fkey"⟩⟩

def codes : Table := ⟨"codes", "public", [codeColumn "code"]⟩

def codeFriends : Table := ⟨"friends", "public", [codeColumn "a", codeColumn "b"]⟩

def byRank : Listing := { Listing.standard with order := [⟨"rank", .descending⟩] }

theorem pages_stable_iff_codes :
    (codes.primaryKey? = some (codeColumn "code") ∧ ∀ field ∈ byRank.order, codes.column? field.name = none) ∧
    (Sql.select codes byRank).text =
      "SELECT \"code\" FROM \"public\".\"codes\" ORDER BY \"code\" ASC LIMIT 50 OFFSET 0" ∧
    byRank.StableOn codes (rowPair "code") := by
  have keyed : codes.primaryKey? = some (codeColumn "code") := by decide
  have unsorted : ∀ field ∈ byRank.order, codes.column? field.name = none := by decide
  obtain ⟨text, -, stable, -⟩ := pages_stable_iff keyed unsorted
  exact ⟨⟨keyed, unsorted⟩, text.trans (by decide), (stable _ _ (by simp [rowPair, codeColumn])).2⟩

/-- The primary key tells the two rows apart, but the first of its columns, by which they are ordered, does not. -/
theorem composite_key_unstable :
    (codeFriends.primaryKey? = some (codeColumn "a") ∧
      ∀ field ∈ Listing.standard.order, codeFriends.column? field.name = none) ∧
    (Sql.select codeFriends .standard).text =
      "SELECT \"a\", \"b\" FROM \"public\".\"friends\" ORDER BY \"a\" ASC LIMIT 50 OFFSET 0" ∧
    codeFriends.KeyDistinct (rowPair "b") ∧ ¬ Listing.standard.StableOn codeFriends (rowPair "b") := by
  have keyed : codeFriends.primaryKey? = some (codeColumn "a") := by decide
  have unsorted : ∀ field ∈ Listing.standard.order, codeFriends.column? field.name = none := nofun
  have further : codeColumn "b" ∈ codeFriends.columns := .tail _ (.head _)
  exact ⟨⟨keyed, unsorted⟩, by decide, rowPair_not_stableOn keyed unsorted further rfl (by decide)⟩

end TableGateway
