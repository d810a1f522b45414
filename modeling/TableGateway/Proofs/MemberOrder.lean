import TableGateway.Http.Body
import TableGateway.Proofs.Dictionaries

/-!
# The order of members

Every object within a document lists its members by increasing key (`Json.WellFormed`), if the document is made of
a dictionary (`wellFormed_ofDict_iff`), of members in any order (`wellFormed_ofMembers`), or by reading a text
(`wellFormed_of_readWithin`). For a text the reason is that every token leaves what is open well formed
(`wellFormed_advance`): an object that ends passes through a dictionary.
-/
namespace TableGateway
namespace Json

/-! ## Documents from parts -/

theorem wellFormedItems_iff {items : List Json} : WellFormedItems items ↔ ∀ item ∈ items, item.WellFormed := by
  induction items with
  | nil => simp [WellFormedItems]
  | cons item rest ih => rw [WellFormedItems, ih, List.forall_mem_cons]

theorem wellFormedMembers_iff {members : List (String × Json)} :
    WellFormedMembers members ↔ ∀ member ∈ members, member.2.WellFormed := by
  induction members with
  | nil => simp [WellFormedMembers]
  | cons member rest ih => rw [WellFormedMembers, ih, List.forall_mem_cons]

theorem wellFormed_array_iff {items : List Json} :
    (Json.array items).WellFormed ↔ ∀ item ∈ items, item.WellFormed := by
  rw [WellFormed, wellFormedItems_iff]

theorem wellFormed_object_iff {members : List (String × Json)} :
    (Json.object members).WellFormed ↔
      (members.map Prod.fst).Pairwise (· < ·) ∧ ∀ member ∈ members, member.2.WellFormed := by
  rw [WellFormed, wellFormedMembers_iff]

theorem wellFormed_ofDict_iff {d : Dict Json} :
    (ofDict d).WellFormed ↔ ∀ member ∈ d.entries, member.2.WellFormed := by
  rw [ofDict, wellFormed_object_iff, and_iff_right d.ordered]

theorem wellFormed_ofMembers {members : List (String × Json)} (values : ∀ member ∈ members, member.2.WellFormed) :
    (ofMembers members).WellFormed := by
  refine wellFormed_ofDict_iff.mpr fun member listed => values member ?_
  exact Dict.mem_of_get?_ofList (Dict.get?_of_mem listed)

/-! ## Documents from texts -/

def Token.WellFormed : Token → Prop
  | .scalar value => value.WellFormed
  | _ => True

/-- Holds when what has been read into an open array or object is well formed. -/
def Frame.WellFormed : Frame → Prop
  | .array items => ∀ item ∈ items, item.WellFormed
  | .object members _ => ∀ member ∈ members, member.2.WellFormed

def Expects.WellFormed : Expects → Prop
  | .key members _ | .colon members _ => ∀ member ∈ members, member.2.WellFormed
  | _ => True

def Progress.WellFormed : Progress → Prop
  | .finished value => value.WellFormed
  | .going expects stack => expects.WellFormed ∧ ∀ frame ∈ stack, frame.WellFormed
  | .refused => True

theorem wellFormed_tokenAt {text : List Char} {token : Token} {left : Shorter text}
    (read : tokenAt text = some (token, left)) : token.WellFormed := by
  unfold tokenAt at read
  split at read
  · cases read
  · -- The values that are one token have neither items nor members.
    split at read <;> simp only [Option.map_eq_some_iff, Option.some.injEq, Prod.mk.injEq] at read <;>
      grind [Token.WellFormed, Json.WellFormed]

theorem wellFormed_nextToken {text : List Char} {token : Token} {left : Shorter text}
    (read : nextToken text = some (token, left)) : token.WellFormed := by
  obtain ⟨⟨first, rest⟩, at_start, same⟩ := Option.map_eq_some_iff.mp read
  obtain ⟨rfl, -⟩ := Prod.mk.inj same
  exact wellFormed_tokenAt at_start

theorem wellFormed_complete {value : Json} {stack : List Frame} (whole : value.WellFormed)
    (opened : ∀ frame ∈ stack, frame.WellFormed) : (complete value stack).WellFormed := by
  cases stack with
  | nil => exact whole
  | cons frame stack =>
    obtain ⟨inner, outer⟩ := List.forall_mem_cons.mp opened
    cases frame with
    | array items =>
      exact ⟨trivial, List.forall_mem_cons.mpr ⟨List.forall_mem_cons.mpr ⟨whole, inner⟩, outer⟩⟩
    | object members key =>
      exact ⟨trivial, List.forall_mem_cons.mpr ⟨List.forall_mem_cons.mpr ⟨whole, inner⟩, outer⟩⟩

/-- A token leaves what is open well formed, and completes what is. -/
theorem wellFormed_advance {outer : Nat} {expects : Expects} {stack : List Frame} {token : Token}
    (expected : expects.WellFormed) (opened : ∀ frame ∈ stack, frame.WellFormed) (next : token.WellFormed) :
    (advance outer expects stack token).WellFormed := by
  have no_member : ∀ member ∈ ([] : List (String × Json)), member.2.WellFormed := nofun
  have no_item : ∀ item ∈ ([] : List Json), item.WellFormed := nofun
  unfold advance
  split
  · exact wellFormed_complete next opened
  -- An array or an object begins, and has nothing yet.
  · split
    · exact ⟨trivial, List.forall_mem_cons.mpr ⟨no_item, opened⟩⟩
    · trivial
  · split
    · exact ⟨no_member, opened⟩
    · trivial
  · exact wellFormed_complete (wellFormed_array_iff.mpr no_item) (List.forall_mem_cons.mp opened).2
  · exact ⟨expected, opened⟩
  · exact wellFormed_complete (wellFormed_object_iff.mpr ⟨.nil, no_member⟩) opened
  · exact ⟨trivial, List.forall_mem_cons.mpr ⟨expected, opened⟩⟩
  · exact ⟨trivial, opened⟩
  · exact List.forall_mem_cons.mp opened
  -- An array or an object ends; what it has stands backwards.
  · obtain ⟨items, around⟩ := List.forall_mem_cons.mp opened
    have in_order := fun item member => items item (List.mem_reverse.mp member)
    exact wellFormed_complete (wellFormed_array_iff.mpr in_order) around
  · obtain ⟨members, around⟩ := List.forall_mem_cons.mp opened
    have in_order := fun entry member => members entry (List.mem_reverse.mp member)
    exact wellFormed_complete (wellFormed_ofMembers in_order) around
  · trivial

theorem wellFormed_of_build {outer : Nat} {expects : Expects} {stack : List Frame} {text : List Char} {value : Json}
    {left : Shorter text} (expected : expects.WellFormed) (opened : ∀ frame ∈ stack, frame.WellFormed)
    (read : build outer expects stack text = some (value, left)) : value.WellFormed := by
  fun_induction build outer expects stack text with
  | case1 => cases read
  | case2 expects stack text token rest shorter found whole finished =>
    have progress : (advance outer expects stack token).WellFormed :=
      wellFormed_advance expected opened (wellFormed_nextToken found)
    obtain ⟨rfl, -⟩ := Prod.mk.inj (Option.some.inj read)
    rwa [finished] at progress
  | case3 expects stack text token rest shorter found expects' stack' going ih =>
    have progress : (advance outer expects stack token).WellFormed :=
      wellFormed_advance expected opened (wellFormed_nextToken found)
    rw [going] at progress
    obtain ⟨⟨whole, behind⟩, later, same⟩ := Option.map_eq_some_iff.mp read
    obtain ⟨rfl, -⟩ := Prod.mk.inj same
    exact ih progress.1 progress.2 later
  | case4 => cases read

/-- What is read at the start of a text is well formed, within however many open arrays and objects. -/
theorem wellFormed_of_readWithin {outer : Nat} {text : List Char} {value : Json} {left : Shorter text}
    (read : readWithin outer text = some (value, left)) : value.WellFormed := by
  have awaited : (Expects.value false).WellFormed := trivial
  have nothing_open : ∀ frame ∈ ([] : List Frame), frame.WellFormed := nofun
  exact wellFormed_of_build awaited nothing_open read

theorem wellFormed_of_read? {s : String} {value : Json} (read : read? s = some value) : value.WellFormed := by
  unfold read? at read
  split at read
  · rename_i first rest found
    split at read
    · cases read
      exact wellFormed_of_readWithin found
    · cases read
  · cases read

end Json

/-- The document of a request's body is well formed, whatever the body and the limit. -/
theorem Http.Request.wellFormed_of_json {r : Request} {limit : Nat} {value : Json}
    (accepted : r.json limit = .ok value) : value.WellFormed := by
  unfold json at accepted
  cases held : r.document limit with
  | error status =>
    rw [held] at accepted
    cases accepted
  | ok text =>
    simp only [held, bind, Except.bind] at accepted
    split at accepted
    · rename_i first rest found
      cases accepted
      exact Json.wellFormed_of_readWithin found
    · cases accepted

end TableGateway
