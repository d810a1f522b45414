import TableGateway.Proofs.DelimitedLists
import TableGateway.Request.Listing

/-!
# Names listed in a query

A query lists names between delimiters, with nothing between some of them if the caller likes; in an order a minus sign
before a name means down, and alone it means nothing. If reading a piece undoes writing it (`Undoes`), then exactly what
is written among the pieces of a text is read from it (`Undoes.filterMap_splitText_iff`), whatever idle pieces stand
around. Names and the fields of an order are both written so (`undoes_names`, `undoes_fields`); so each list of a query
is the one that its text lists, and no name is lost, turned round or moved (`lists_read_back`).
-/
namespace TableGateway

/-! ## Pieces that are read -/

/-- Texts in their order among pieces that are idle apart from them. -/
inductive Among (idle : String → Prop) : List String → List String → Prop where
  | nil : Among idle [] []
  | drop {s : String} {texts pieces : List String} (no_text : idle s) (rest : Among idle texts pieces) :
      Among idle texts (s :: pieces)
  | keep (s : String) {texts pieces : List String} (rest : Among idle texts pieces) :
      Among idle (s :: texts) (s :: pieces)

namespace Among
variable {idle : String → Prop} {texts pieces : List String}

theorem sublist (among : Among idle texts pieces) : texts.Sublist pieces := by
  induction among with
  | nil => exact .slnil
  | drop _ _ ih => exact .cons _ ih
  | keep _ _ ih => exact .cons_cons _ ih

theorem forall_mem {P : String → Prop} (among : Among idle texts pieces) (of_idle : ∀ s, idle s → P s)
    (of_text : ∀ s ∈ texts, P s) : ∀ s ∈ pieces, P s := by
  induction among with
  | nil => exact of_text
  | drop no_text _ ih => exact List.forall_mem_cons.mpr ⟨of_idle _ no_text, ih of_text⟩
  | keep s _ ih =>
    obtain ⟨first, others⟩ := List.forall_mem_cons.mp of_text
    exact List.forall_mem_cons.mpr ⟨first, ih others⟩

end Among

/-- Reading undoes writing: what is legible is read from what is written for it, and from idle pieces nothing is. -/
structure Undoes {α : Type} (read : String → Option α) (write : α → String) (Legible : α → Prop)
    (idle : String → Prop) : Prop where
  some_iff : ∀ s x, read s = some x ↔ Legible x ∧ s = write x
  none_iff : ∀ s, read s = none ↔ idle s

namespace Undoes
variable {α : Type} {read : String → Option α} {write : α → String} {Legible : α → Prop} {idle : String → Prop}

theorem not_idle (undoes : Undoes read write Legible idle) {x : α} (legible : Legible x) : ¬ idle (write x) := by
  intro no_text
  have something := (undoes.some_iff _ x).mpr ⟨legible, rfl⟩
  rw [(undoes.none_iff _).mpr no_text] at something
  cases something

theorem write_inj (undoes : Undoes read write Legible idle) {x y : α} (legible : Legible x) (legible' : Legible y)
    (same : write x = write y) : x = y := by
  have read_x := (undoes.some_iff _ x).mpr ⟨legible, rfl⟩
  have read_y := (undoes.some_iff _ y).mpr ⟨legible', same⟩
  exact Option.some.inj (read_x.symm.trans read_y)

/-- From pieces, one after the other, exactly what is written among them is read. -/
theorem filterMap_eq_iff (undoes : Undoes read write Legible idle) {pieces : List String} {xs : List α} :
    pieces.filterMap read = xs ↔ (∀ x ∈ xs, Legible x) ∧ Among idle (xs.map write) pieces := by
  induction pieces generalizing xs with
  | nil =>
    constructor
    · rintro rfl
      exact ⟨by simp, .nil⟩
    · rintro ⟨-, among⟩
      have nothing := List.sublist_nil.mp among.sublist
      exact (List.map_eq_nil_iff.mp nothing).symm
  | cons s pieces ih =>
    cases given : read s with
    | none =>
      have no_text := (undoes.none_iff s).mp given
      rw [List.filterMap_cons_none given, ih]
      refine and_congr_right fun legible => ⟨.drop no_text, fun among => ?_⟩
      generalize texts_eq : xs.map write = texts at among
      cases among with
      | drop _ rest => exact rest
      | keep _ rest =>
        obtain ⟨x, xs, rfl, rfl, -⟩ := List.map_eq_cons_iff.mp texts_eq
        exact absurd no_text (undoes.not_idle (legible x (.head _)))
    | some x =>
      obtain ⟨legible, rfl⟩ := (undoes.some_iff s x).mp given
      rw [List.filterMap_cons_some given]
      constructor
      · rintro rfl
        obtain ⟨others, among⟩ := ih.mp rfl
        exact ⟨List.forall_mem_cons.mpr ⟨legible, others⟩, .keep _ among⟩
      · rintro ⟨all, among⟩
        generalize texts_eq : xs.map write = texts at among
        cases among with
        | drop no_text _ => exact absurd no_text (undoes.not_idle legible)
        | keep _ rest =>
          obtain ⟨y, ys, rfl, same, rfl⟩ := List.map_eq_cons_iff.mp texts_eq
          obtain ⟨first, others⟩ := List.forall_mem_cons.mp all
          rw [ih.mpr ⟨others, rest⟩, undoes.write_inj legible first same.symm]

/-- What is read from a delimited text is what is written between its delimiters, with any number of idle pieces more. -/
theorem filterMap_splitText_iff (undoes : Undoes read write Legible idle) {delimiter : Char} (idle_empty : idle "")
    (idle_free : ∀ s, idle s → delimiter ∉ s.toList) (text : String) (xs : List α) :
    (splitText delimiter text).filterMap read = xs ↔
      (∀ x ∈ xs, Legible x ∧ delimiter ∉ (write x).toList) ∧
      ∃ pieces, Among idle (xs.map write) pieces ∧ text = (String.ofList [delimiter]).intercalate pieces := by
  constructor
  · intro reads
    obtain ⟨legible, among⟩ := undoes.filterMap_eq_iff.mp reads
    refine ⟨fun x member => ⟨legible x member, ?_⟩, _, among, (intercalate_splitText delimiter text).symm⟩
    exact not_mem_splitText (among.sublist.mem (List.mem_map_of_mem member))
  · rintro ⟨written, pieces, among, rfl⟩
    have legible : ∀ x ∈ xs, Legible x := fun x member => (written x member).1
    have free : ∀ s ∈ pieces, delimiter ∉ s.toList :=
      among.forall_mem idle_free (List.forall_mem_map.mpr fun x member => (written x member).2)
    rw [← undoes.filterMap_eq_iff.mpr ⟨legible, among⟩]
    cases pieces with
    | nil => exact List.filterMap_cons_none ((undoes.none_iff _).mpr idle_empty)
    | cons s pieces => rw [splitText_intercalate (List.cons_ne_nil s pieces) free]

end Undoes

/-! ## Names -/

/-- A text lists names: they stand between its delimiters, one after the other, and nothing any number of times. -/
def ListsNames (text : String) (names : List String) : Prop :=
  (∀ n ∈ names, n ≠ "" ∧ '|' ∉ n.toList) ∧ ∃ pieces, Among (· = "") names pieces ∧ text = "|".intercalate pieces

theorem undoes_names : Undoes (Option.guard (· ≠ "")) id (· ≠ "") (· = "") where
  some_iff s n := by
    simp only [Option.guard_eq_some_iff, decide_eq_true_eq, id]
    constructor
    · rintro ⟨rfl, named⟩
      exact ⟨named, rfl⟩
    · rintro ⟨named, rfl⟩
      exact ⟨rfl, named⟩
  none_iff s := by simp

/-- The names of a text are exactly those that it lists. -/
theorem delimitedNames_eq_iff {text : String} {names : List String} :
    delimitedNames text = names ↔ ListsNames text names := by
  have empty_free (s : String) (empty : s = "") : '|' ∉ s.toList := by
    rw [empty]
    decide
  have reads := undoes_names.filterMap_splitText_iff rfl empty_free text names
  rw [List.map_id, List.filterMap_eq_filter] at reads
  exact reads

/-! ## Orders -/

namespace OrderField

/-- The piece that a field is written as. -/
def text (f : OrderField) : String :=
  match f.direction with
  | .ascending => f.name
  | .descending => "-" ++ f.name

/-- A field that its piece gives back: a sign before its name means down, so none is the first of a name for up. -/
structure Legible (f : OrderField) : Prop where
  named : f.name ≠ ""
  unsigned : f.direction = .ascending → f.name.toList.head? ≠ some '-'

end OrderField

/-- A text lists an order: the pieces of its fields stand between its delimiters, one after the other, and nothing or a
    sign alone any number of times. -/
def ListsOrder (text : String) (fields : Order) : Prop :=
  (∀ f ∈ fields, f.Legible ∧ '|' ∉ f.name.toList) ∧
  ∃ pieces, Among (fun s => s = "" ∨ s = "-") (fields.map OrderField.text) pieces ∧ text = "|".intercalate pieces

/-- The field of a piece; nothing is none. -/
def readField (piece : String) : Option OrderField :=
  if piece = "" then none else Order.fieldOfText? piece

theorem readField_signed {name : String} (named : name ≠ "") : readField ("-" ++ name) = some ⟨name, .descending⟩ := by
  have chars : ("-" ++ name).toList = '-' :: name.toList := by simp
  have some_char : name.toList ≠ [] := by simpa using named
  rw [readField, if_neg (by simp), Order.fieldOfText?, chars]
  split
  · rename_i alone
    exact absurd (List.cons.inj alone).2 some_char
  · rename_i chars_eq
    rw [← (List.cons.inj chars_eq).2, String.ofList_toList]
  · rename_i unsigned
    exact absurd rfl (unsigned _)

theorem readField_unsigned {piece : String} (named : piece ≠ "") (unsigned : piece.toList.head? ≠ some '-') :
    readField piece = some ⟨piece, .ascending⟩ := by
  rw [readField, if_neg named, Order.fieldOfText?]
  split <;> simp_all

theorem readField_idle {piece : String} (idle : piece = "" ∨ piece = "-") : readField piece = none := by
  obtain rfl | rfl := idle <;> rfl

/-- What a piece may be. -/
theorem piece_cases (piece : String) :
    (piece = "" ∨ piece = "-") ∨ (∃ name, name ≠ "" ∧ piece = "-" ++ name) ∨
      (piece ≠ "" ∧ piece.toList.head? ≠ some '-') := by
  by_cases signed : piece.toList.head? = some '-'
  · obtain ⟨name, chars⟩ := List.head?_eq_some_iff.mp signed
    have written : piece = "-" ++ String.ofList name := by
      rw [← String.toList_inj, chars]
      simp
    by_cases alone : name = []
    · exact .inl (.inr (by simpa [alone] using written))
    · exact .inr (.inl ⟨_, by simpa using alone, written⟩)
  · by_cases empty : piece = ""
    · exact .inl (.inl empty)
    · exact .inr (.inr ⟨empty, signed⟩)

theorem readField_text {f : OrderField} (legible : f.Legible) : readField f.text = some f := by
  obtain ⟨name, direction⟩ := f
  cases direction with
  | ascending => exact readField_unsigned legible.named (legible.unsigned rfl)
  | descending => exact readField_signed legible.named

theorem undoes_fields : Undoes readField OrderField.text OrderField.Legible (fun s => s = "" ∨ s = "-") where
  some_iff piece f := by
    refine ⟨fun reads => ?_, ?_⟩
    · obtain idle | ⟨name, named, rfl⟩ | ⟨named, unsigned⟩ := piece_cases piece
      · rw [readField_idle idle] at reads
        cases reads
      · rw [readField_signed named] at reads
        cases reads
        exact ⟨⟨named, nofun⟩, rfl⟩
      · rw [readField_unsigned named unsigned] at reads
        cases reads
        exact ⟨⟨named, fun _ => unsigned⟩, rfl⟩
    · rintro ⟨legible, rfl⟩
      exact readField_text legible
  none_iff piece := by
    refine ⟨fun reads => ?_, readField_idle⟩
    obtain idle | ⟨name, named, rfl⟩ | ⟨named, unsigned⟩ := piece_cases piece
    · exact idle
    · rw [readField_signed named] at reads
      cases reads
    · rw [readField_unsigned named unsigned] at reads
      cases reads

/-- The order of a text is exactly the one that it lists. -/
theorem Order.ofText_eq_iff {text : String} {fields : Order} : Order.ofText text = fields ↔ ListsOrder text fields := by
  have idle_free (s : String) (idle : s = "" ∨ s = "-") : '|' ∉ s.toList := by
    obtain rfl | rfl := idle <;> decide
  have free_iff (f : OrderField) : '|' ∉ f.text.toList ↔ '|' ∉ f.name.toList := by
    obtain ⟨name, direction⟩ := f
    cases direction <;> simp [OrderField.text]
  have read : Order.ofText text = (splitText '|' text).filterMap readField := by
    rw [Order.ofText, delimitedNames, List.filterMap_filter]
    refine List.filterMap_congr fun piece _ => ?_
    by_cases empty : piece = "" <;> simp [readField, empty]
  have lists := undoes_fields.filterMap_splitText_iff (.inl rfl) idle_free text fields
  simp only [free_iff] at lists
  rw [read]
  exact lists

/-- The lists of a query are read as what their texts list, and each text lists one: the fields of the order, the
    columns that are selected, and those that are searched for a text. -/
theorem lists_read_back (query : Dict String) (text : String) :
    (∀ fields, Order.ofText text = fields ↔ ListsOrder text fields) ∧
    (query.get? "sort" = some text → ∀ fields, Order.ofQuery query = fields ↔ ListsOrder text fields) ∧
    (query.get? "selectCols" = some text → ∀ names, Selection.ofQuery query = names ↔ ListsNames text names) ∧
    (query.get? "textFiltersCols" = some text → ∀ sought, query.get? "textFilters" = some sought → sought ≠ "" →
      ∀ names, Filter.ofQuery query = .search sought names ↔ ListsNames text names) := by
  refine ⟨fun fields => Order.ofText_eq_iff, fun given fields => ?_, fun given names => ?_,
    fun given sought asked some_text names => ?_⟩
  · rw [Order.ofQuery, given]
    exact Order.ofText_eq_iff
  · rw [Selection.ofQuery, given]
    exact delimitedNames_eq_iff
  · have search : Filter.ofQuery query = .search sought (delimitedNames text) := by
      simp [Filter.ofQuery, asked, some_text, given]
    rw [search, ← delimitedNames_eq_iff]
    simp

/-- A query with lists in it that repeat a name, and with idle pieces in front, between and behind. -/
def placesLists : Dict String :=
  .ofList [("sort", "|--age|-|name||-a b|-"), ("selectCols", "||zip|name|zip|"), ("textFilters", "Ann"),
    ("textFiltersCols", "name|")]

theorem lists_read_back_places :
    (placesLists.get? "sort" = some "|--age|-|name||-a b|-" ∧ placesLists.get? "selectCols" = some "||zip|name|zip|" ∧
      placesLists.get? "textFiltersCols" = some "name|" ∧ placesLists.get? "textFilters" = some "Ann" ∧ "Ann" ≠ "") ∧
    Order.ofQuery placesLists = [⟨"-age", .descending⟩, ⟨"name", .ascending⟩, ⟨"a b", .descending⟩] ∧
    Selection.ofQuery placesLists = ["zip", "name", "zip"] ∧
    Filter.ofQuery placesLists = .search "Ann" ["name"] := by
  have sort : placesLists.get? "sort" = some "|--age|-|name||-a b|-" := by rfl
  have selected : placesLists.get? "selectCols" = some "||zip|name|zip|" := by rfl
  have columns : placesLists.get? "textFiltersCols" = some "name|" := by rfl
  have sought : placesLists.get? "textFilters" = some "Ann" := by rfl
  have order : ListsOrder "|--age|-|name||-a b|-"
      [⟨"-age", .descending⟩, ⟨"name", .ascending⟩, ⟨"a b", .descending⟩] := by
    refine ⟨?_, ["", "--age", "-", "name", "", "-a b", "-"], ?_, rfl⟩
    · simp only [List.forall_mem_cons]
      exact ⟨⟨⟨by decide, nofun⟩, by decide⟩, ⟨⟨by decide, by decide⟩, by decide⟩, ⟨⟨by decide, nofun⟩, by decide⟩,
        by simp⟩
    · exact .drop (.inl rfl) (.keep "--age" (.drop (.inr rfl) (.keep "name" (.drop (.inl rfl) (.keep "-a b"
        (.drop (.inr rfl) .nil))))))
  have selection : ListsNames "||zip|name|zip|" ["zip", "name", "zip"] :=
    ⟨by decide, ["", "", "zip", "name", "zip", ""],
      .drop rfl (.drop rfl (.keep "zip" (.keep "name" (.keep "zip" (.drop rfl .nil))))), rfl⟩
  have searched : ListsNames "name|" ["name"] := ⟨by decide, ["name", ""], .keep "name" (.drop rfl .nil), rfl⟩
  obtain ⟨-, ordered, -, -⟩ := lists_read_back placesLists "|--age|-|name||-a b|-"
  obtain ⟨-, -, chosen, -⟩ := lists_read_back placesLists "||zip|name|zip|"
  obtain ⟨-, -, -, found⟩ := lists_read_back placesLists "name|"
  exact ⟨⟨sort, selected, columns, sought, by decide⟩, (ordered sort _).mpr order, (chosen selected _).mpr selection,
    (found columns "Ann" sought (by decide) _).mpr searched⟩

end TableGateway
