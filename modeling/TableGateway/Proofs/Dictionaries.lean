import Mathlib
import TableGateway.Dict

/-!
# Laying entries over a dictionary

Dictionaries with the same values at every key are equal (`ext_get?`). An overlay puts entries into a dictionary
one after the other; at a key the last of them counts, and without one the dictionary's own value
(`get?_overlay`). A list of entries with distinct keys is looked up as it stands (`get?_ofList_eq_some_iff`), so
the entries of a dictionary make the same dictionary again (`ofList_entries`), and an overlay of them is told by the
two dictionaries alone (`Overlays`).
-/
namespace TableGateway
namespace Dict
variable {α : Type}

/-- A dictionary with entries put into it, in their order. -/
def overlay (base : Dict α) (laid : List (String × α)) : Dict α :=
  laid.foldl (fun d entry => d.insert entry.1 entry.2) base

theorem get?_eq_some_iff {d : Dict α} {key : String} {value : α} :
    d.get? key = some value ↔ (key, value) ∈ d.entries :=
  ⟨mem_of_get?, get?_of_mem⟩

theorem get?_filter_eq_some_iff {keep : α → Bool} {d : Dict α} {key : String} {value : α} :
    (d.filter keep).get? key = some value ↔ d.get? key = some value ∧ keep value = true := by
  rw [get?_eq_some_iff, get?_eq_some_iff, filter, List.mem_filter]

theorem keys_nodup (d : Dict α) : (d.entries.map Prod.fst).Nodup :=
  d.ordered.imp fun before => before.ne

theorem ext_get? {d e : Dict α} (same : ∀ key, d.get? key = e.get? key) : d = e := by
  have increasing (d : Dict α) : d.entries.Pairwise fun first second => first.1 < second.1 :=
    List.pairwise_map.mp d.ordered
  refine Dict.ext (List.Pairwise.eq_of_mem_iff (increasing d) (increasing e) ?_)
  rintro ⟨key, value⟩
  rw [← get?_eq_some_iff, ← get?_eq_some_iff, same]

theorem overlay_cons (base : Dict α) (entry : String × α) (rest : List (String × α)) :
    base.overlay (entry :: rest) = (base.insert entry.1 entry.2).overlay rest := rfl

theorem entries_overlay (base : Dict α) (laid : List (String × α)) :
    (base.overlay laid).entries = laid.foldl (fun under entry => put entry.1 entry.2 under) base.entries := by
  induction laid generalizing base with
  | nil => rfl
  | cons entry rest ih => exact ih (base.insert entry.1 entry.2)

/-- An overlay has the last of the laid values at a key, or else the value of the dictionary. -/
theorem get?_overlay (base : Dict α) (laid : List (String × α)) (key : String) :
    (base.overlay laid).get? key = ((ofList laid).get? key).or (base.get? key) := by
  induction laid generalizing base with
  | nil => rfl
  | cons entry rest ih =>
    -- Both sides put the first entry down, under the rest: into `base`, and into an empty dictionary.
    have listed : ofList (entry :: rest) = (empty.insert entry.1 entry.2).overlay rest := rfl
    rw [overlay_cons, ih, listed, ih, get?_insert, get?_insert, get?_empty, Option.or_assoc]
    congr 1
    split <;> rfl

theorem get?_ofList_cons (key k : String) (value : α) (rest : List (String × α)) :
    (ofList ((k, value) :: rest)).get? key =
      ((ofList rest).get? key).or (if key = k then some value else none) := by
  have listed : ofList ((k, value) :: rest) = (empty.insert k value).overlay rest := rfl
  rw [listed, get?_overlay, get?_insert, get?_empty]

theorem mem_of_get?_ofList {entries : List (String × α)} {key : String} {value : α}
    (found : (ofList entries).get? key = some value) : (key, value) ∈ entries := by
  induction entries with
  | nil => simp [ofList] at found
  | cons entry rest ih =>
    obtain ⟨k, first⟩ := entry
    rw [get?_ofList_cons, Option.or_eq_some_iff] at found
    rcases found with found | ⟨-, found⟩
    · exact List.mem_cons_of_mem _ (ih found)
    · simp_all

/-- A list of entries gives a value to the keys that it has. -/
theorem exists_get?_ofList_iff {entries : List (String × α)} {key : String} :
    (∃ value, (ofList entries).get? key = some value) ↔ key ∈ entries.map Prod.fst := by
  induction entries with
  | nil => simp [ofList]
  | cons entry rest ih =>
    obtain ⟨k, first⟩ := entry
    rw [List.map_cons, List.mem_cons, ← ih, get?_ofList_cons]
    cases (ofList rest).get? key <;> simp

theorem get?_ofList_eq_none_iff {entries : List (String × α)} {key : String} :
    (ofList entries).get? key = none ↔ key ∉ entries.map Prod.fst := by
  rw [← exists_get?_ofList_iff, not_exists, Option.eq_none_iff_forall_ne_some]

/-- Entries with distinct keys are the values of their dictionary. -/
theorem get?_ofList_eq_some_iff {entries : List (String × α)} (distinct : (entries.map Prod.fst).Nodup)
    {key : String} {value : α} : (ofList entries).get? key = some value ↔ (key, value) ∈ entries := by
  refine ⟨mem_of_get?_ofList, fun member => ?_⟩
  induction entries with
  | nil => simp at member
  | cons entry rest ih =>
    obtain ⟨k, first⟩ := entry
    rw [List.map_cons, List.nodup_cons] at distinct
    rw [get?_ofList_cons]
    rcases List.mem_cons.mp member with same | later
    · obtain ⟨rfl, rfl⟩ := Prod.mk.inj same
      simp [get?_ofList_eq_none_iff.mpr distinct.1]
    · simp [ih distinct.2 later]

@[simp] theorem ofList_entries (d : Dict α) : ofList d.entries = d := by
  refine ext_get? fun key => Option.ext fun value => ?_
  rw [get?_ofList_eq_some_iff d.keys_nodup, get?_eq_some_iff]

/-! ## A dictionary over another -/

/-- A dictionary over another makes up a whole: its own values, and those of the other at the keys it has not. -/
def Overlays (upper base whole : Dict α) : Prop :=
  ∀ key, whole.get? key = (upper.get? key).or (base.get? key)

theorem overlays_overlay (upper base : Dict α) : upper.Overlays base (base.overlay upper.entries) := by
  intro key
  rw [get?_overlay, ofList_entries]

theorem overlays_iff {upper base whole : Dict α} :
    upper.Overlays base whole ↔ whole = base.overlay upper.entries := by
  constructor
  · intro overlays
    exact ext_get? fun key => (overlays key).trans (overlays_overlay upper base key).symm
  · rintro rfl
    exact overlays_overlay upper base

/-- Two dictionaries are laid over a third one after the other, or at once. -/
theorem Overlays.assoc {base first second both below whole : Dict α} (at_once : second.Overlays first both)
    (under : first.Overlays base below) (upon : second.Overlays below whole) : both.Overlays base whole := by
  intro key
  rw [upon key, under key, at_once key, Option.or_assoc]

/-- What has been laid over is there. -/
theorem Overlays.again {upper base whole : Dict α} (overlays : upper.Overlays base whole) :
    upper.Overlays whole whole := by
  intro key
  rw [overlays key, ← Option.or_assoc, Option.or_self]

end Dict
end TableGateway
