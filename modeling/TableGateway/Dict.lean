/-!
# Dictionaries

A dictionary maps texts to values and lists its entries by increasing key, so two dictionaries with
the same entries are equal. `get?_insert` says what an insertion changes.
-/
namespace TableGateway

/-- Entries by key, each key once, in increasing order. -/
structure Dict (α : Type) where
  entries : List (String × α)
  ordered : (entries.map Prod.fst).Pairwise (· < ·)

namespace Dict
variable {α β : Type}

/-- The value at `key` in a list of entries. -/
def lookup (key : String) : List (String × α) → Option α
  | [] => none
  | (k, value) :: rest => if k = key then some value else lookup key rest

/-- Puts `value` at `key` into entries by increasing key. -/
def put (key : String) (value : α) : List (String × α) → List (String × α)
  | [] => [(key, value)]
  | (k, other) :: rest =>
    if key < k then (key, value) :: (k, other) :: rest
    else if key = k then (key, value) :: rest
    else (k, other) :: put key value rest

theorem mem_keys_put {key k : String} {value : α} {entries : List (String × α)} :
    k ∈ (put key value entries).map Prod.fst ↔ k = key ∨ k ∈ entries.map Prod.fst := by
  induction entries with
  | nil => simp [put]
  | cons entry rest ih =>
    obtain ⟨first, other⟩ := entry
    unfold put
    split
    · simp
    · split
      · rename_i same
        subst same
        simp
      · simp only [List.map_cons, List.mem_cons, ih]
        constructor
        · rintro (h | h | h) <;> simp [h]
        · rintro (h | h | h) <;> simp [h]

theorem ordered_put {key : String} {value : α} {entries : List (String × α)}
    (ordered : (entries.map Prod.fst).Pairwise (· < ·)) :
    ((put key value entries).map Prod.fst).Pairwise (· < ·) := by
  induction entries with
  | nil => simp [put]
  | cons entry rest ih =>
    obtain ⟨first, other⟩ := entry
    simp only [List.map_cons, List.pairwise_cons] at ordered
    unfold put
    split
    · rename_i before
      simp only [List.map_cons, List.pairwise_cons, List.mem_cons]
      refine ⟨?_, ordered⟩
      rintro k (rfl | later)
      · exact before
      · exact String.lt_trans before (ordered.1 k later)
    · split
      · rename_i same
        subst same
        simpa using ordered
      · rename_i notBefore notSame
        simp only [List.map_cons, List.pairwise_cons]
        refine ⟨?_, ih ordered.2⟩
        intro k member
        rcases mem_keys_put.mp member with rfl | later
        · rcases Std.lt_trichotomy k first with lt | eq | gt
          · exact absurd lt notBefore
          · exact absurd eq notSame
          · exact gt
        · exact ordered.1 k later

def empty : Dict α := ⟨[], by simp⟩

instance : Inhabited (Dict α) := ⟨empty⟩

/-- The value at `key`. -/
def get? (d : Dict α) (key : String) : Option α :=
  lookup key d.entries

/-- The dictionary with `value` at `key`. -/
def insert (d : Dict α) (key : String) (value : α) : Dict α :=
  ⟨put key value d.entries, ordered_put d.ordered⟩

/-- The dictionary of a list of entries, of which the last one at a key counts. -/
def ofList (entries : List (String × α)) : Dict α :=
  entries.foldl (fun d entry => d.insert entry.1 entry.2) empty

def keys (d : Dict α) : List String :=
  d.entries.map Prod.fst

/-- The values, by increasing key. -/
def values (d : Dict α) : List α :=
  d.entries.map Prod.snd

def size (d : Dict α) : Nat :=
  d.entries.length

/-- Holds when there is no entry. -/
def isEmpty (d : Dict α) : Bool :=
  d.entries.isEmpty

/-- The entries whose value passes the test. -/
def filter (keep : α → Bool) (d : Dict α) : Dict α :=
  ⟨d.entries.filter fun entry => keep entry.2,
    d.ordered.sublist (List.Sublist.map _ List.filter_sublist)⟩

/-- The dictionary with every value replaced. -/
def map (f : α → β) (d : Dict α) : Dict β :=
  ⟨d.entries.map fun entry => (entry.1, f entry.2), by
    have same : (d.entries.map fun entry => (entry.1, f entry.2)).map Prod.fst = d.entries.map Prod.fst := by
      simp [Function.comp_def]
    rw [same]
    exact d.ordered⟩

@[ext] theorem ext {d e : Dict α} (same : d.entries = e.entries) : d = e := by
  cases d; cases e; simp_all

instance [DecidableEq α] : DecidableEq (Dict α) := fun d e =>
  decidable_of_iff (d.entries = e.entries) ⟨ext, fun same => same ▸ rfl⟩

@[simp] theorem get?_empty (key : String) : (empty : Dict α).get? key = none := rfl

theorem lookup_put (key k : String) (value : α) (entries : List (String × α)) :
    lookup k (put key value entries) = if k = key then some value else lookup k entries := by
  induction entries with
  | nil => simp [put, lookup, eq_comm]
  | cons entry rest ih =>
    obtain ⟨first, other⟩ := entry
    unfold put
    split
    · simp [lookup, eq_comm]
    · split
      · rename_i same
        subst same
        by_cases h : k = key
        · simp [lookup, h]
        · simp [lookup, h, Ne.symm h]
      · rename_i notSame
        simp only [lookup, ih]
        by_cases h : first = k
        · subst h
          simp [Ne.symm notSame]
        · simp [h]

theorem lookup_of_mem {key : String} {value : α} {entries : List (String × α)}
    (ordered : (entries.map Prod.fst).Pairwise (· < ·)) (member : (key, value) ∈ entries) :
    lookup key entries = some value := by
  induction entries with
  | nil => simp at member
  | cons entry rest ih =>
    obtain ⟨first, other⟩ := entry
    simp only [List.map_cons, List.pairwise_cons] at ordered
    rcases List.mem_cons.mp member with same | later
    · simp_all [lookup]
    · have before : first < key := ordered.1 key (List.mem_map.mpr ⟨_, later, rfl⟩)
      have apart : first ≠ key := fun same => String.lt_irrefl key (same ▸ before)
      rw [lookup, if_neg apart, ih ordered.2 later]

theorem get?_of_mem {d : Dict α} {key : String} {value : α} (member : (key, value) ∈ d.entries) :
    d.get? key = some value :=
  lookup_of_mem d.ordered member

theorem mem_of_lookup {key : String} {value : α} {entries : List (String × α)}
    (found : lookup key entries = some value) : (key, value) ∈ entries := by
  induction entries with
  | nil => simp [lookup] at found
  | cons entry rest ih =>
    obtain ⟨first, other⟩ := entry
    by_cases same : first = key
    · simp_all [lookup]
    · rw [lookup, if_neg same] at found
      exact List.mem_cons_of_mem _ (ih found)

theorem mem_of_get? {d : Dict α} {key : String} {value : α} (found : d.get? key = some value) :
    (key, value) ∈ d.entries :=
  mem_of_lookup found

/-- An insertion changes the value at its key and no other. -/
@[simp] theorem get?_insert (d : Dict α) (key k : String) (value : α) :
    (d.insert key value).get? k = if k = key then some value else d.get? k :=
  lookup_put key k value d.entries

end Dict
end TableGateway
