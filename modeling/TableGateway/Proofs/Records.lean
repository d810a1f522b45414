import Mathlib
import TableGateway.Json.Record

/-!
# Reading records from dictionaries

A record depends on the members of an object through the values of its fields only (`ofMembers_field_eq_ok_iff`).
Where the keys of an object are distinct, the checks of its members say nothing that the fields do not say
(`decode_ofDict_eq_ok_iff`): members with a field are looked up, and others are not checked.
-/
namespace TableGateway
variable {α β : Type}

/-- What a field is read from among members: the member of its name, or else what stands for an absent one. -/
def Json.fieldOf (members : List (String × Json)) (name : String) (read : Reader β)
    (absent : Except DecodeError β) : Except DecodeError β :=
  match Dict.lookup name members with
  | some found => read found
  | none => absent

namespace Record

@[simp] theorem ofMembers_start (value : α) (members : List (String × Json)) :
    (start value).ofMembers members = .ok value := rfl

@[simp] theorem ofMembers_field (record : Record (β → α)) (name : String) (read : Reader β)
    (absent : Except DecodeError β) (short : Option β) (members : List (String × Json)) :
    (record.field name read absent short).ofMembers members =
      (record.ofMembers members).bind fun make => (Json.fieldOf members name read absent).map make := by
  simp only [field, Json.fieldOf]
  cases record.ofMembers members
  · rfl
  · cases Dict.lookup name members <;> rfl

theorem ofMembers_field_eq_ok_iff {record : Record (β → α)} {name : String} {read : Reader β}
    {absent : Except DecodeError β} {short : Option β} {members : List (String × Json)} {value : α} :
    (record.field name read absent short).ofMembers members = .ok value ↔
      ∃ make part, record.ofMembers members = .ok make ∧ Json.fieldOf members name read absent = .ok part ∧
        make part = value := by
  rw [ofMembers_field]
  cases record.ofMembers members <;> cases Json.fieldOf members name read absent <;>
    simp [Except.bind, Except.map]

/-- Holds when the members that a record is read from pass the checks of their fields. -/
def Checked (record : Record α) : Prop :=
  ∀ members value, record.ofMembers members = .ok value →
    ∀ name read found, (name, read) ∈ record.fields → Dict.lookup name members = some found → read found = .ok ()

theorem checked_start (value : α) : (start value).Checked := by
  intro members _ _ name read found field
  simp [start] at field

theorem Checked.field {record : Record (β → α)} (checked : record.Checked) (name : String) (read : Reader β)
    (absent : Except DecodeError β) (short : Option β) : (record.field name read absent short).Checked := by
  intro members value made k check found listed present
  obtain ⟨make, part, before, last, -⟩ := ofMembers_field_eq_ok_iff.mp made
  rcases List.mem_append.mp listed with earlier | added
  · exact checked members make before k check found earlier present
  · obtain ⟨rfl, rfl⟩ := Prod.mk.inj (List.mem_singleton.mp added)
    rw [Json.fieldOf, present] at last
    exact congrArg (Except.map fun _ => ()) last

theorem check_ok {record : Record α} {members : List (String × Json)}
    (pass : ∀ member ∈ members, ∀ read, Dict.lookup member.1 record.fields = some read → read member.2 = .ok ()) :
    record.check members = .ok () := by
  induction members with
  | nil => rfl
  | cons member rest ih =>
    obtain ⟨name, value⟩ := member
    have later := ih fun member listed => pass member (List.mem_cons_of_mem _ listed)
    have first := pass (name, value) (.head _)
    rw [check]
    cases found : Dict.lookup name record.fields with
    | none => exact later
    | some read =>
      have passed : read value = .ok () := first read found
      simp only [passed]
      exact later

/-- A dictionary is read as a record when its fields are. -/
theorem decode_ofDict_eq_ok_iff {record : Record α} (checked : record.Checked) (name : String) (d : Dict Json)
    (value : α) : record.decode name (.ofDict d) = .ok value ↔ record.ofMembers d.entries = .ok value := by
  have steps : record.decode name (.ofDict d) =
      (record.check d.entries).bind fun _ => record.ofMembers d.entries := rfl
  rw [steps]
  constructor
  · intro decoded
    cases passed : record.check d.entries with
    | error cause => simp [passed, Except.bind] at decoded
    | ok _ => simpa [passed, Except.bind] using decoded
  · intro made
    -- The check reads every member that stands for a field; by its distinct key it is the one that was read.
    have passed : record.check d.entries = .ok () := by
      refine check_ok fun member listed read found => ?_
      exact checked _ value made member.1 read member.2 (Dict.mem_of_lookup found)
        (Dict.lookup_of_mem d.ordered listed)
    rw [passed]
    exact made

theorem decode_object_eq_ok_iff {record : Record α} (checked : record.Checked) (name : String)
    {members : List (String × Json)} (ordered : (members.map Prod.fst).Pairwise (· < ·)) (value : α) :
    record.decode name (.object members) = .ok value ↔ record.ofMembers members = .ok value :=
  decode_ofDict_eq_ok_iff checked name ⟨members, ordered⟩ value

end Record
end TableGateway
