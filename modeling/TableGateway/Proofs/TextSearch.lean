import Mathlib
import TableGateway.Proofs.LetterCase
import TableGateway.Proofs.RowRestrictions

/-!
# What a search finds

A search tests the text of every column that it looks at against the pattern that has the lower case of the searched
text between two `%`. A row is found if and only if one of the texts matches (`ilike`). The characters of the searched
text keep what they stand for in patterns, so a row is found exactly when one of its texts contains the searched text,
for every row, if and only if that is a `PlainText` (`search_finds_iff`).
-/
namespace TableGateway

/-! ## Patterns -/

/-- What a character of a pattern stands for. -/
inductive PatternPart where
  /-- Any run of characters. -/
  | run
  /-- Any one character. -/
  | one
  /-- This character. -/
  | letter (c : Char)

namespace PatternPart

/-- What a character stands for that is not behind a backslash. -/
def ofChar (c : Char) : PatternPart :=
  if c = '%' then .run else if c = '_' then .one else .letter c

/-- A text that a part stands for. -/
def sample : PatternPart → List Char
  | run => []
  | one => ['x']
  | letter c => [c]

end PatternPart

/-- The parts of a pattern; a character behind a backslash stands for itself. -/
def patternParts (escaped : Bool) : List Char → List PatternPart
  | [] => []
  | c :: rest =>
    if escaped then .letter c :: patternParts false rest
    else if c = '\\' then patternParts true rest
    else .ofChar c :: patternParts false rest

/-- Tells whether a text is made of what the parts stand for, one behind the other. -/
def fits : List PatternPart → List Char → Bool
  | [], value => value.isEmpty
  | .run :: parts, value => value.tails.any (fits parts)
  | .one :: _, [] => false
  | .one :: parts, _ :: rest => fits parts rest
  | .letter _ :: _, [] => false
  | .letter c :: parts, d :: rest => c == d && fits parts rest

/-- Tells whether a value matches a pattern, where the case of letters does not matter. -/
def ilike (value pattern : String) : Bool :=
  fits (patternParts false (pattern.toList.map lowerLetter)) (value.toList.map lowerLetter)

/-- Holds when a value contains a text, where the case of letters does not matter. -/
def ContainsText (text value : String) : Prop :=
  text.toList.map lowerLetter <:+: value.toList.map lowerLetter

/-- Holds for texts without characters that stand for others in patterns. -/
def LiteralText (text : String) : Prop :=
  '%' ∉ text.toList ∧ '_' ∉ text.toList ∧ '\\' ∉ text.toList

/-- Holds for texts that mean themselves in patterns and have the lower case of their letters. -/
structure PlainText (text : String) : Prop where
  literal : LiteralText text
  undotted : 'İ' ∉ text.toList
  no_final : ¬ FinalSigma [] text.toList

section
variable {parts : List PatternPart} {letters value rest : List Char}

theorem fits_run_iff : fits (.run :: parts) value = true ↔ ∃ rest, rest <:+ value ∧ fits parts rest = true := by
  simp [fits]

theorem fits_letters (fit : fits (letters.map .letter ++ parts) value = true) :
    ∃ rest, value = letters ++ rest ∧ fits parts rest = true := by
  induction letters generalizing value with
  | nil => exact ⟨value, rfl, fit⟩
  | cons c letters ih =>
    cases value with
    | nil => cases fit
    | cons d value =>
      simp only [List.map_cons, List.cons_append, fits, Bool.and_eq_true, beq_iff_eq] at fit
      obtain ⟨rfl, fits_on⟩ := fit
      obtain ⟨rest, rfl, fits_rest⟩ := ih fits_on
      exact ⟨rest, rfl, fits_rest⟩

/-- Whatever its characters stand for, a text that has no backslash matches itself. -/
theorem fits_itself (fit : fits parts rest = true) : fits (letters.map .ofChar ++ parts) (letters ++ rest) = true := by
  induction letters with
  | nil => exact fit
  | cons c letters ih =>
    rw [List.map_cons, List.cons_append, PatternPart.ofChar]
    split
    · exact fits_run_iff.mpr ⟨letters ++ rest, List.suffix_cons c _, ih⟩
    · split
      · exact ih
      · simpa [fits] using ih

theorem fits_sample (parts : List PatternPart) : fits parts (parts.flatMap PatternPart.sample) = true := by
  induction parts with
  | nil => rfl
  | cons part parts ih =>
    cases part with
    | run => exact fits_run_iff.mpr ⟨_, List.suffix_refl _, ih⟩
    | one => exact ih
    | letter c => simpa [PatternPart.sample, fits] using ih

theorem patternParts_of_no_escape {pattern : List Char} (no_escape : '\\' ∉ pattern) :
    patternParts false pattern = pattern.map .ofChar := by
  induction pattern with
  | nil => rfl
  | cons c pattern ih =>
    obtain ⟨other, no_escape⟩ := not_or.mp (mt List.mem_cons.mpr no_escape)
    simp [patternParts, Ne.symm other, ih no_escape]

theorem mem_sample_ofChar {c d : Char} (member : d ∈ (PatternPart.ofChar c).sample) :
    (c = '_' ∧ d = 'x') ∨ (c ≠ '%' ∧ c ≠ '_' ∧ d = c) := by
  rw [PatternPart.ofChar] at member
  split at member
  · cases member
  · split at member
    · exact .inl ⟨‹_›, List.mem_singleton.mp member⟩
    · exact .inr ⟨‹_›, ‹_›, List.mem_singleton.mp member⟩

/-- The sample of a pattern has its characters and `x` only. -/
theorem mem_of_mem_sample {pattern : List Char} {escaped : Bool} {d : Char}
    (member : d ∈ (patternParts escaped pattern).flatMap PatternPart.sample) : d = 'x' ∨ d ∈ pattern := by
  induction pattern generalizing escaped with
  | nil => cases member
  | cons c pattern ih =>
    rw [patternParts] at member
    split at member
    · obtain here | later := List.mem_append.mp (List.flatMap_cons ▸ member)
      · exact .inr (List.mem_singleton.mp here ▸ .head _)
      · exact (ih later).imp_right (List.mem_cons_of_mem c)
    · split at member
      · exact (ih member).imp_right (List.mem_cons_of_mem c)
      · obtain here | later := List.mem_append.mp (List.flatMap_cons ▸ member)
        · obtain ⟨-, rfl⟩ | ⟨-, -, rfl⟩ := mem_sample_ofChar here
          · exact .inl rfl
          · exact .inr (.head _)
        · exact (ih later).imp_right (List.mem_cons_of_mem c)

/-- A backslash stands for the one behind it at most, so that a sample has fewer of them than its pattern. -/
theorem count_sample (pattern : List Char) (escaped : Bool) :
    ((patternParts escaped pattern).flatMap PatternPart.sample).count '\\' ≤ pattern.count '\\' ∧
      (escaped = false → '\\' ∈ pattern →
        ((patternParts escaped pattern).flatMap PatternPart.sample).count '\\' < pattern.count '\\') := by
  induction pattern generalizing escaped with
  | nil => simp [patternParts]
  | cons c pattern ih =>
    rw [patternParts]
    cases escaped with
    | true =>
      have fewer := (ih false).1
      simp only [if_true, List.flatMap_cons, PatternPart.sample, List.count_append, List.count_cons, List.count_nil]
      refine ⟨by omega, fun unescaped => ?_⟩
      cases unescaped
    | false =>
      rw [if_neg (by decide)]
      by_cases escape : c = '\\'
      · have fewer := (ih true).1
        simp only [List.count_cons, escape, beq_self_eq_true, if_true]
        exact ⟨by omega, fun _ _ => by omega⟩
      · have none_here : (PatternPart.ofChar c).sample.count '\\' = 0 := by
          refine List.count_eq_zero.mpr fun member => ?_
          obtain ⟨-, other⟩ | ⟨-, -, same⟩ := mem_sample_ofChar member
          · cases other
          · exact escape same.symm
        obtain ⟨fewer, less⟩ := ih false
        simp only [if_neg escape, List.flatMap_cons, List.count_append, none_here, List.count_cons_of_ne escape,
          Nat.zero_add]
        refine ⟨fewer, fun _ member => less rfl ?_⟩
        exact (List.mem_cons.mp member).resolve_left (Ne.symm escape)

end

/-! ## The pattern of a search -/

section
variable {text value : String}

theorem marks : Mark '%' ∧ Mark '_' ∧ Mark '\\' :=
  ⟨⟨by decide, by decide⟩, ⟨by decide, by decide⟩, ⟨by decide, by decide⟩⟩

/-- The lower case of a searched text, letter by letter. -/
def lowered (text : String) : List Char :=
  (lowerFrom [] text.toList).map lowerLetter

theorem ilike_pattern_eq (text value : String) :
    ilike value (Sql.Condition.pattern text) =
      fits (.run :: patternParts false (lowered text ++ ['%'])) (value.toList.map lowerLetter) := by
  simp [ilike, Sql.Condition.pattern, lowerCase, lowered, patternParts, PatternPart.ofChar, marks.1.lower]

theorem lowered_eq (undotted : 'İ' ∉ text.toList) (no_final : ¬ FinalSigma [] text.toList) :
    lowered text = text.toList.map lowerLetter :=
  (map_lowerFrom_iff [] text.toList).mpr ⟨undotted, no_final⟩

/-- A search whose text has no backslash misses no value that contains the text. -/
theorem ilike_of_contains (no_escape : '\\' ∉ text.toList) (undotted : 'İ' ∉ text.toList)
    (no_final : ¬ FinalSigma [] text.toList) (contains : ContainsText text value) :
    ilike value (Sql.Condition.pattern text) = true := by
  have no_escape : '\\' ∉ lowered text ++ ['%'] := by
    simpa [lowered, marks.2.2.mem_map_lowerFrom_iff] using no_escape
  obtain ⟨front, behind, value_eq⟩ := contains
  rw [ilike_pattern_eq, patternParts_of_no_escape no_escape, lowered_eq undotted no_final, ← value_eq, List.map_append]
  refine fits_run_iff.mpr ⟨text.toList.map lowerLetter ++ behind, ⟨front, by simp⟩, fits_itself ?_⟩
  exact fits_run_iff.mpr ⟨[], List.nil_suffix, rfl⟩

theorem infix_of_ilike (literal : LiteralText text) (found : ilike value (Sql.Condition.pattern text) = true) :
    lowered text <:+: value.toList.map lowerLetter := by
  obtain ⟨run, one, escape⟩ := marks
  obtain ⟨no_run, no_one, no_escape⟩ := literal
  rw [← run.mem_map_lowerFrom_iff []] at no_run
  rw [← one.mem_map_lowerFrom_iff []] at no_one
  rw [← escape.mem_map_lowerFrom_iff []] at no_escape
  have letters : (lowered text).map PatternPart.ofChar = (lowered text).map .letter := by
    refine List.map_congr_left fun c member => ?_
    rw [PatternPart.ofChar, if_neg (ne_of_mem_of_not_mem member no_run), if_neg (ne_of_mem_of_not_mem member no_one)]
  rw [ilike_pattern_eq, patternParts_of_no_escape (by simpa [lowered] using no_escape), List.map_append,
    letters, fits_run_iff] at found
  obtain ⟨_, ⟨front, value_eq⟩, fit⟩ := found
  obtain ⟨behind, rfl, -⟩ := fits_letters fit
  exact ⟨front, behind, by rw [← value_eq, List.append_assoc]⟩

/-- A text that a pattern without backslashes stands for has no character that stands for others. -/
theorem not_mem_sample {pattern : List Char} (no_escape : '\\' ∉ pattern) :
    '%' ∉ (patternParts false pattern).flatMap PatternPart.sample ∧
      '_' ∉ (patternParts false pattern).flatMap PatternPart.sample := by
  have ordinary (d : Char) (member : d ∈ (patternParts false pattern).flatMap PatternPart.sample) :
      d ≠ '%' ∧ d ≠ '_' := by
    rw [patternParts_of_no_escape no_escape, List.flatMap_map] at member
    obtain ⟨c, -, here⟩ := List.mem_flatMap.mp member
    obtain ⟨-, rfl⟩ | ⟨no_run, no_one, rfl⟩ := mem_sample_ofChar here
    · decide
    · exact ⟨no_run, no_one⟩
  exact ⟨fun member => (ordinary _ member).1 rfl, fun member => (ordinary _ member).2 rfl⟩

/-- A search whose text has a character that stands for others finds a value that does not contain the text. -/
theorem exists_ilike_not_contains (special : ¬ LiteralText text) :
    ∃ value, ilike value (Sql.Condition.pattern text) = true ∧ ¬ ContainsText text value := by
  let pattern := lowered text ++ ['%']
  let found := (patternParts false pattern).flatMap PatternPart.sample
  have fixed : found.map lowerLetter = found := by
    refine (List.map_congr_left fun d member => ?_).trans (List.map_id found)
    obtain rfl | written := mem_of_mem_sample member
    · decide
    · obtain letter | percent := List.mem_append.mp written
      · obtain ⟨c, -, rfl⟩ := List.mem_map.mp letter
        exact lowerLetter_lowerLetter c
      · obtain rfl := List.mem_singleton.mp percent
        decide
  refine ⟨String.ofList found, ?_, fun contains => ?_⟩
  · rw [ilike_pattern_eq, String.toList_ofList, fixed]
    exact fits_sample (.run :: patternParts false pattern)
  · rw [ContainsText, String.toList_ofList, fixed] at contains
    have escapes : pattern.count '\\' = text.toList.count '\\' := by
      simp [pattern, lowered, marks.2.2.count_map_lowerFrom]
    by_cases escape : '\\' ∈ text.toList
    · have kept := contains.sublist.count_le '\\'
      rw [marks.2.2.count_map_lowerLetter, ← escapes] at kept
      have fewer := (count_sample pattern false).2 rfl (List.count_pos_iff.mp (escapes ▸ List.count_pos_iff.mpr escape))
      exact absurd kept (Nat.not_le.mpr fewer)
    · have no_escape : '\\' ∉ pattern := List.count_eq_zero.mp (escapes.trans (List.count_eq_zero.mpr escape))
      obtain ⟨no_run, no_one⟩ := not_mem_sample no_escape
      refine special ⟨fun written => no_run ?_, fun written => no_one ?_, escape⟩
      · exact contains.subset ((marks.1.mem_map_lowerLetter_iff _).mpr written)
      · exact contains.subset ((marks.2.1.mem_map_lowerLetter_iff _).mpr written)

/-- A search finds exactly the values that contain its text if and only if that is plain. -/
theorem plainText_iff (text : String) :
    (∀ value, ilike value (Sql.Condition.pattern text) = true ↔ ContainsText text value) ↔ PlainText text := by
  constructor
  · intro exact_search
    have literal : LiteralText text := by
      by_contra special
      obtain ⟨value, found, without⟩ := exists_ilike_not_contains special
      exact without ((exact_search value).mp found)
    -- The text contains itself, so that its lower case must be that of its letters.
    have within := infix_of_ilike literal ((exact_search text).mpr (List.infix_refl _))
    have longer := length_lowerFrom [] text.toList
    have shorter := within.length_le
    have same : lowered text = text.toList.map lowerLetter :=
      within.eq_of_length (by simp only [lowered, List.length_map] at shorter ⊢; omega)
    obtain ⟨undotted, no_final⟩ := (map_lowerFrom_iff [] text.toList).mp same
    exact ⟨literal, undotted, no_final⟩
  · intro plain value
    refine ⟨fun found => ?_, ilike_of_contains plain.literal.2.2 plain.undotted plain.no_final⟩
    rw [ContainsText, ← lowered_eq plain.undotted plain.no_final]
    exact infix_of_ilike plain.literal found

end

/-! ## Clauses -/

/-- A test of a column's text against the pattern that is a parameter. -/
structure LikeTest where
  column : String
  parameter : Nat

namespace LikeTest

def text (test : LikeTest) : String :=
  Sql.quoted test.column ++ "::text ILIKE $" ++ toString test.parameter

/-- What a test gives for a row, whose columns have a text or are NULL; of NULL nothing is known. -/
def outcome (bound : List Sql.Parameter) (row : String → Option String) (test : LikeTest) : Option Bool :=
  match row test.column, bound[test.parameter - 1]? with
  | some value, some (.text pattern) => some (ilike value pattern)
  | _, _ => none

/-- A disjunction of what may not be known. -/
def either : Option Bool → Option Bool → Option Bool
  | some true, _ => some true
  | _, some true => some true
  | some false, some false => some false
  | _, _ => none

/-- The clause that has one of the tests hold. -/
def clause (tests : List LikeTest) : String :=
  "WHERE " ++ " OR ".intercalate (tests.map text)

/-- What the clause gives for a row. -/
def truth (tests : List LikeTest) (bound : List Sql.Parameter) (row : String → Option String) : Option Bool :=
  (tests.map (outcome bound row)).foldr either (some false)

theorem foldr_either_eq_true_iff {outcomes : List (Option Bool)} :
    outcomes.foldr either (some false) = some true ↔ some true ∈ outcomes := by
  induction outcomes with
  | nil => simp
  | cons first rest ih =>
    rw [List.foldr_cons, List.mem_cons, ← ih]
    rcases first with _ | _ | _ <;> rcases rest.foldr either (some false) with _ | _ | _ <;> simp [either]

end LikeTest

/-- Holds when a row has a text of this kind in a column that a search looks at. -/
def SearchedText (t : Table) (names : List String) (row : String → Option String) (kind : String → Prop) : Prop :=
  ∃ c value, Searched t names c ∧ row c.name = some value ∧ kind value

/-- The tests of a search, of which all are against its one parameter. -/
def searchTests (columns : List Column) : List LikeTest :=
  columns.map fun c => ⟨c.name, 1⟩

theorem clause_searchTests (columns : List Column) :
    LikeTest.clause (searchTests columns) =
      "WHERE " ++ " OR ".intercalate (columns.map fun c => c.quotedName ++ "::text ILIKE $1") := by
  have first : "::text ILIKE $1" = "::text ILIKE $" ++ toString 1 := by decide
  simp only [LikeTest.clause, searchTests, List.map_map]
  refine congrArg (fun tests => "WHERE " ++ " OR ".intercalate tests) (List.map_congr_left fun c _ => ?_)
  rw [Function.comp_apply, LikeTest.text, first, String.append_assoc]
  rfl

theorem truth_searchTests_iff {t : Table} {names : List String} {columns : List Column}
    (exactly : ∀ c, c ∈ columns ↔ Searched t names c) (pattern : String) (row : String → Option String) :
    LikeTest.truth (searchTests columns) [.text pattern] row = some true ↔
      SearchedText t names row fun value => ilike value pattern = true := by
  rw [LikeTest.truth, LikeTest.foldr_either_eq_true_iff, searchTests, List.map_map, List.mem_map]
  constructor
  · rintro ⟨c, member, outcome⟩
    cases stored : row c.name with
    | none => simp [LikeTest.outcome, stored] at outcome
    | some value =>
      simp only [Function.comp_apply, LikeTest.outcome, stored] at outcome
      exact ⟨c, value, (exactly c).mp member, stored, Option.some.inj outcome⟩
  · rintro ⟨c, value, searched, stored, found⟩
    exact ⟨c, (exactly c).mpr searched, by simp [LikeTest.outcome, stored, found]⟩

theorem SearchedText.imp {t : Table} {names : List String} {row : String → Option String} {kind other : String → Prop}
    (imp : ∀ value, kind value → other value) (searched : SearchedText t names row kind) :
    SearchedText t names row other := by
  obtain ⟨c, value, searched, stored, holds⟩ := searched
  exact ⟨c, value, searched, stored, imp value holds⟩

/-- Where some column is searched, a row is found if and only if one of the searched texts matches the pattern. These are
    the rows with a text that contains the searched one, whatever the row, if and only if the searched text is plain;
    none of them is missed as long as it has no backslash, no `İ` and no final sigma. -/
theorem search_finds_iff {t : Table} {names : List String} (eligible : ∃ c, Searched t names c) (text : String) :
    ∃ columns, (∀ c, c ∈ columns ↔ Searched t names c) ∧
      let condition := (Filter.search text names).condition t
      let Found row := LikeTest.truth (searchTests columns) condition.parameters row = some true
      condition.text = LikeTest.clause (searchTests columns) ∧
      (∀ row, Found row ↔ SearchedText t names row fun value => ilike value ("%" ++ lowerCase text ++ "%") = true) ∧
      ((∀ row, Found row ↔ SearchedText t names row (ContainsText text)) ↔ PlainText text) ∧
      ('\\' ∉ text.toList → 'İ' ∉ text.toList → ¬ FinalSigma [] text.toList →
        ∀ row, SearchedText t names row (ContainsText text) → Found row) := by
  obtain ⟨searched, -⟩ | ⟨columns, -, searched, condition⟩ := condition_search_cases t names text
  · obtain ⟨c, eligible⟩ := eligible
    rw [← mem_searched_iff, searched] at eligible
    cases eligible
  · have exactly (c : Column) : c ∈ columns ↔ Searched t names c := by rw [← searched, mem_searched_iff]
    have found (row : String → Option String) :=
      truth_searchTests_iff exactly (Sql.Condition.pattern text) row
    refine ⟨columns, exactly, ?_, ?_, ?_, ?_⟩
    · rw [condition, clause_searchTests]
      rfl
    · rw [condition]
      exact found
    · simp only [condition, Sql.Condition.parameters, found, ← plainText_iff]
      constructor
      · intro exact_rows value
        obtain ⟨c, eligible⟩ := eligible
        have exact_row := exact_rows fun _ => some value
        have only (kind : String → Prop) : SearchedText t names (fun _ => some value) kind ↔ kind value := by
          refine ⟨?_, fun holds => ⟨c, value, eligible, rfl, holds⟩⟩
          rintro ⟨_, _, _, stored, holds⟩
          exact Option.some.inj stored ▸ holds
        rwa [only, only] at exact_row
      · intro exact_values row
        exact ⟨.imp fun value => (exact_values value).mp, .imp fun value => (exact_values value).mpr⟩
    · simp only [condition, Sql.Condition.parameters, found]
      exact fun no_escape undotted no_final row => .imp fun _ => ilike_of_contains no_escape undotted no_final

theorem search_finds_iff_orders :
    let condition := (Filter.search "Ann" []).condition Sql.orders
    PlainText "Ann" ∧ ∃ columns, condition.text = LikeTest.clause (searchTests columns) ∧
      LikeTest.truth (searchTests columns) condition.parameters (fun _ => some "Joanna") = some true ∧
      LikeTest.truth (searchTests columns) condition.parameters (fun _ => some "Bob") ≠ some true := by
  intro condition
  have plain : PlainText "Ann" := by
    refine ⟨⟨by decide, by decide, by decide⟩, by decide, ?_⟩
    rintro ⟨front, behind, text_eq, -, -⟩
    have sigma : 'Σ' ∈ "Ann".toList := by simp [text_eq]
    exact absurd sigma (by decide)
  obtain ⟨note, eligible⟩ : ∃ c, Searched Sql.orders [] c := ⟨_, .inl ⟨rfl, .head _, rfl⟩⟩
  obtain ⟨columns, -, text_eq, -, found, -⟩ := search_finds_iff ⟨note, eligible⟩ "Ann"
  have found := found.mpr plain
  refine ⟨plain, columns, text_eq, (found _).mpr ⟨note, _, eligible, rfl, ?_⟩, fun bob => ?_⟩
  · unfold ContainsText
    decide +kernel
  · obtain ⟨c, value, -, stored, contains⟩ := (found _).mp bob
    cases stored
    unfold ContainsText at contains
    exact absurd contains (by decide +kernel)

/-- A search for a text with a percent sign finds values without it, and one for a capital word at whose end there is a
    sigma misses that word. -/
theorem search_beyond_text :
    let percent := (Filter.search "100%" []).condition Sql.orders
    let word := (Filter.search "ΟΔΟΣ" []).condition Sql.orders
    let tests : List LikeTest := [⟨"note", 1⟩]
    (percent.text = LikeTest.clause tests ∧ ¬ ContainsText "100%" "1000 m" ∧
      LikeTest.truth tests percent.parameters (fun _ => some "1000 m") = some true) ∧
    (word.text = LikeTest.clause tests ∧ ContainsText "ΟΔΟΣ" "ΟΔΟΣ" ∧
      LikeTest.truth tests word.parameters (fun _ => some "ΟΔΟΣ") ≠ some true) := by
  unfold ContainsText
  decide +kernel

end TableGateway
