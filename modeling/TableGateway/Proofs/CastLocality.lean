import TableGateway.Proofs.Segmentation
import TableGateway.Sql.Statement

/-!
# Casts within a statement

A statement holds the caller's expression between parts of its own. Casting the references of the whole
statement casts those of the expression, as if it stood alone, and leaves every other part as it is
(`castReferences_surrounded`). Two facts carry this. A text that leaves nothing open at its end is cut the same
way whatever separate text follows it (`castBehind_append`), and where it leaves something open, that swallows a
part of what follows and nothing else changes. And what stands before a text matters only through its last word
(`Alike`).
-/
namespace TableGateway.Sql

/-- The text with its references cast, where it stands behind another. -/
def castBehind (types : List (Option String)) (before text : List Char) : List Char :=
  (segments before.reverse text).flatMap (Segment.cast types)

theorem castReferences_eq (types : List (Option String)) (sql : String) :
    castReferences sql types = String.ofList (castBehind types [] sql.toList) := rfl

theorem castBehind_of_segmentation {types : List (Option String)} {before text : List Char}
    {segs : List Segment} (cut : Segmentation before text segs) :
    castBehind types before text = segs.flatMap (Segment.cast types) := by
  rw [castBehind, ← segmentation_iff.mp cut]

theorem segmentation_exists (before text : List Char) : ∃ segs, Segmentation before text segs :=
  ⟨_, segmentation_iff.mpr rfl⟩

@[simp] theorem castBehind_nil (types : List (Option String)) (before : List Char) :
    castBehind types before [] = [] := by
  simp [castBehind, segments]

/-- Casting goes from segment to segment. -/
theorem castBehind_of_stands (types : List (Option String)) {before rest : List Char} {seg : Segment}
    (stands : seg.Stands before rest) :
    castBehind types before (seg.text ++ rest) =
      seg.cast types ++ castBehind types (before ++ seg.text) rest := by
  obtain ⟨segs, cut⟩ := segmentation_exists (before ++ seg.text) rest
  rw [castBehind_of_segmentation cut,
    castBehind_of_segmentation (segmentation_cons_iff.mpr ⟨rest, rfl, stands, cut⟩), List.flatMap_cons]

theorem Segment.Form.cast_eq_text {before run : List Char} {seg : Segment}
    {ends : List Char → List Char → Prop} (form : seg.Form before run ends) (types : List (Option String)) :
    seg.cast types = seg.text := by
  cases form <;> rfl

/-! ## What stands before -/

@[simp] theorem endsInWord_concat (before : List Char) (c : Char) :
    EndsInWord (before ++ [c]) ↔ isWordChar c = true := by
  simp [EndsInWord]

@[simp] theorem endsInEscapeMark_concat (before : List Char) (c : Char) :
    EndsInEscapeMark (before ++ [c]) ↔ (c = 'e' ∨ c = 'E') ∧ ¬ EndsInWord before := by
  constructor
  · rintro ⟨p, d, parts, letter, apart⟩
    obtain ⟨rfl, rfl⟩ : before = p ∧ c = d := by simpa using parts
    exact ⟨letter, apart⟩
  · rintro ⟨letter, apart⟩
    exact ⟨before, c, rfl, letter, apart⟩

/-- Two texts behind which every text is cut in the same way. -/
def Alike (b b' : List Char) : Prop :=
  (EndsInWord b ↔ EndsInWord b') ∧ (EndsInEscapeMark b ↔ EndsInEscapeMark b')

theorem Alike.append {b b' : List Char} (alike : Alike b b') (text : List Char) :
    Alike (b ++ text) (b' ++ text) := by
  induction text generalizing b b' with
  | nil => simpa using alike
  | cons c text ih =>
    have next : Alike (b ++ [c]) (b' ++ [c]) := by simp [Alike, alike.1]
    simpa using ih next

theorem Alike.symm {b b' : List Char} (alike : Alike b b') : Alike b' b :=
  ⟨alike.1.symm, alike.2.symm⟩

/-- Behind a character of no word a text is cut as if it stood alone. -/
theorem alike_nil {c : Char} (noWord : isWordChar c = false) (before : List Char) : Alike (before ++ [c]) [] := by
  have noLetter : ¬ (c = 'e' ∨ c = 'E') := by
    rintro (rfl | rfl) <;> exact absurd noWord (by decide)
  have empty : ¬ EndsInWord [] ∧ ¬ EndsInEscapeMark [] := by simp [EndsInWord, EndsInEscapeMark]
  simp [Alike, noWord, noLetter, empty]

theorem Segment.Form.of_alike {b b' run : List Char} (alike : Alike b b') {seg : Segment}
    {ends : List Char → List Char → Prop} (form : seg.Form b run ends) : seg.Form b' run ends := by
  cases form with
  | literal =>
    rw [propext alike.2]
    exact .literal run
  | identifier => exact .identifier run
  | lineComment => exact .lineComment run
  | blockComment => exact .blockComment run
  | dollarBody apart valid => exact .dollarBody (fun inWord => apart (alike.1.mpr inWord)) valid run

theorem Opens.of_alike {b b' text : List Char} (alike : Alike b b') (opens : Opens b text) : Opens b' text := by
  cases opens with
  | literal rest => exact .literal rest
  | identifier rest => exact .identifier rest
  | lineComment rest => exact .lineComment rest
  | blockComment rest => exact .blockComment rest
  | reference apart digit rest => exact .reference (fun inWord => apart (alike.1.mpr inWord)) digit rest
  | dollarBody apart valid rest => exact .dollarBody (fun inWord => apart (alike.1.mpr inWord)) valid rest

theorem Segment.Stands.of_alike {b b' rest : List Char} (alike : Alike b b') {seg : Segment}
    (stands : seg.Stands b rest) : seg.Stands b' rest := by
  cases stands with
  | run form stops => exact .run (form.of_alike alike) stops
  | reference apart some_digit all_digits maximal =>
    exact .reference (fun inWord => apart (alike.1.mpr inWord)) some_digit all_digits maximal
  | other single => exact .other fun opens => single (opens.of_alike alike.symm)

theorem Segmentation.of_alike {b b' text : List Char} {segs : List Segment} (alike : Alike b b')
    (cut : Segmentation b text segs) : Segmentation b' text segs :=
  ⟨cut.1, fun left seg right parts => (cut.2 left seg right parts).of_alike (alike.append _)⟩

theorem castBehind_of_alike {b b' : List Char} (alike : Alike b b') (types : List (Option String))
    (text : List Char) : castBehind types b text = castBehind types b' text := by
  obtain ⟨segs, cut⟩ := segmentation_exists b text
  rw [castBehind_of_segmentation cut, castBehind_of_segmentation (cut.of_alike alike)]

theorem LeavesOpen.of_alike {b b' text : List Char} (alike : Alike b b') (opened : LeavesOpen b text) :
    LeavesOpen b' text := by
  obtain ⟨left, seg, cut, run, ends, form, unended⟩ := opened
  exact ⟨left, seg, cut.of_alike alike, run, ends, form.of_alike (alike.append _), unended⟩

/-! ## What stands behind -/

/-- A character that nothing before it goes on with. -/
def Separator (c : Char) : Prop :=
  isWordChar c = false ∧ c ∉ [literalMark, identifierMark, '-', '*']

instance (c : Char) : Decidable (Separator c) := by unfold Separator; infer_instance

/-- A text that keeps apart from whatever stands before it. -/
def Separate (rest : List Char) : Prop :=
  ∀ c, rest.head? = some c → Separator c

theorem separate_cons {c : Char} (separator : Separator c) (rest : List Char) : Separate (c :: rest) := by
  simpa [Separate] using separator

theorem Separate.head?_append_ne {rest : List Char} (separate : Separate rest) {c : Char}
    (noSeparator : ¬ Separator c) {text : List Char} (other : text.head? ≠ some c) :
    (text ++ rest).head? ≠ some c := by
  cases text with
  | nil =>
    intro first
    exact noSeparator (separate c first)
  | cons d text => simpa using other

theorem isWordChar_of_tag {tag : List Char} (valid : Tag tag) {c : Char} (member : c ∈ tag) :
    isWordChar c = true := by
  simp only [tag_iff, isTag, Bool.and_eq_true, List.all_eq_true] at valid
  simp only [isWordChar, Bool.or_eq_true]
  exact .inl (by simpa using valid.2 c member)

theorem isWordChar_of_isDigit {c : Char} (digit : c.isDigit = true) : isWordChar c = true := by
  have range := Char.isDigit_iff_toNat.mp digit
  simp only [Char.reduceToNat] at range
  have small : c.toNat < 0x80 := by omega
  simp [isWordChar, isAlphanumeric, isNumeric, small, digit]

theorem not_separator_of_word {c : Char} (inWord : isWordChar c = true) : ¬ Separator c :=
  fun separator => by simp [separator.1] at inWord

theorem Segment.Form.ended_append {before run taken text rest : List Char} {seg : Segment}
    {ends : List Char → List Char → Prop} (form : seg.Form before run ends) (ended : ends taken text)
    (separate : Separate rest) : ends taken (text ++ rest) := by
  cases form with
  | literal =>
    obtain ⟨body, parts, inside, single⟩ := ended
    exact ⟨body, parts, inside, separate.head?_append_ne (by decide) single⟩
  | identifier =>
    obtain ⟨body, parts, inside, single⟩ := ended
    exact ⟨body, parts, inside, separate.head?_append_ne (by decide) single⟩
  | lineComment => exact ⟨ended.1, by simp [List.head?_append, ended.2]⟩
  | blockComment => exact ended
  | dollarBody => exact ended

theorem Segment.Form.ended_of_append {before run taken text rest : List Char} {seg : Segment}
    {ends : List Char → List Char → Prop} (form : seg.Form before run ends) (ended : ends taken (text ++ rest))
    (some_text : text ≠ []) : ends taken text := by
  have first : (text ++ rest).head? = text.head? := List.head?_append_of_ne_nil text some_text
  cases form with
  | literal => simpa [QuoteEnds, first] using ended
  | identifier => simpa [QuoteEnds, first] using ended
  | lineComment => simpa [LineEnds, first] using ended
  | blockComment => exact ended
  | dollarBody => exact ended

theorem Opens.of_append {before text rest : List Char} {c : Char} (opens : Opens before (c :: (text ++ rest)))
    (separate : Separate rest) : Opens before (c :: text) := by
  generalize whole : c :: (text ++ rest) = all at opens
  have next {d : Char} {more : List Char} (noSeparator : ¬ Separator d) (follows : text ++ rest = d :: more) :
      ∃ inner, text = d :: inner := by
    have first : text.head? = some d := by
      by_cases other : text.head? = some d
      · exact other
      · exact absurd (by simp [follows]) (separate.head?_append_ne noSeparator other)
    exact List.head?_eq_some_iff.mp first
  cases opens with
  | literal more =>
    obtain ⟨rfl, -⟩ := List.cons.inj whole
    exact .literal text
  | identifier more =>
    obtain ⟨rfl, -⟩ := List.cons.inj whole
    exact .identifier text
  | lineComment more =>
    obtain ⟨rfl, follows⟩ := List.cons.inj whole
    obtain ⟨inner, rfl⟩ := next (by decide) follows
    exact .lineComment inner
  | blockComment more =>
    obtain ⟨rfl, follows⟩ := List.cons.inj whole
    obtain ⟨inner, rfl⟩ := next (by decide) follows
    exact .blockComment inner
  | @reference d apart digit more =>
    obtain ⟨rfl, follows⟩ := List.cons.inj whole
    obtain ⟨inner, rfl⟩ := next (not_separator_of_word (isWordChar_of_isDigit digit)) follows
    exact .reference apart digit inner
  | @dollarBody tag apart valid more =>
    simp only [delimiter, List.cons_append, List.append_assoc, List.nil_append] at whole
    obtain ⟨rfl, follows⟩ := List.cons.inj whole
    rcases List.append_eq_append_iff.mp follows with ⟨inner, rfl, parts⟩ | ⟨inner, rfl, parts⟩
    · -- The tag would go on in the separate text.
      exfalso
      cases inner with
      | nil => exact absurd (separate '$' (by simp [parts])) (by decide)
      | cons d inner =>
        have inTag : isWordChar d = true := isWordChar_of_tag valid (by simp)
        exact not_separator_of_word inTag (separate d (by simp [parts]))
    · cases inner with
      | nil => exact absurd (separate '$' (by simpa using congrArg List.head? parts.symm)) (by decide)
      | cons d inner =>
        obtain ⟨rfl, -⟩ := List.cons.inj parts
        simpa [delimiter] using Opens.dollarBody apart valid inner

/-- A segment that is not left open stays right where it stands when separate text follows. -/
theorem Segment.Stands.append {before text rest : List Char} {seg : Segment} (stands : seg.Stands before text)
    (closed : text = [] → ¬ seg.Unclosed before) (separate : Separate rest) :
    seg.Stands before (text ++ rest) := by
  cases stands with
  | run form stops =>
    rcases stops with ended | ⟨atEnd, unended⟩
    · exact .run form (.inl (form.ended_append ended separate))
    · exact absurd ⟨_, _, form, unended⟩ (closed atEnd)
  | reference apart some_digit all_digits maximal =>
    refine .reference apart some_digit all_digits ?_
    intro c first
    cases text with
    | nil =>
      cases digit : c.isDigit with
      | false => rfl
      | true => exact absurd (separate c first) (not_separator_of_word (isWordChar_of_isDigit digit))
    | cons d text => exact maximal c (by simpa using first)
  | other single => exact .other fun opens => single (opens.of_append separate)

theorem stops_exists (ends : List Char → List Char → Prop) (text : List Char) :
    ∃ run rest, text = run ++ rest ∧ Stops ends run rest := by
  by_cases unended : Unended ends text
  · exact ⟨text, [], by simp, .inr ⟨rfl, unended⟩⟩
  · simp only [Unended, not_forall, Classical.not_not] at unended
    obtain ⟨run, rest, parts, ended⟩ := unended
    exact ⟨run, rest, parts, .inl ended⟩

theorem Segment.Form.extend {before run : List Char} {seg : Segment} {ends : List Char → List Char → Prop}
    (form : seg.Form before run ends) (more : List Char) :
    ∃ longer : Segment, longer.Form before (run ++ more) ends ∧ longer.text = seg.text ++ more := by
  cases form with
  | literal => exact ⟨_, .literal _, rfl⟩
  | identifier => exact ⟨_, .identifier _, rfl⟩
  | lineComment => exact ⟨_, .lineComment _, rfl⟩
  | blockComment => exact ⟨_, .blockComment _, rfl⟩
  | dollarBody apart valid => exact ⟨_, .dollarBody apart valid _, by simp [Segment.text]⟩

/-- A segment that is left open swallows a part of what follows. -/
theorem Segment.Unclosed.extend {before : List Char} {seg : Segment} (unclosed : seg.Unclosed before)
    (rest : List Char) : ∃ (swallowed left : List Char) (longer : Segment), rest = swallowed ++ left ∧
      longer.Stands before left ∧ longer.text = seg.text ++ swallowed ∧
      ∀ types, seg.cast types = seg.text ∧ longer.cast types = longer.text := by
  obtain ⟨run, ends, form, unended⟩ := unclosed
  obtain ⟨taken, left, parts, stops⟩ := stops_exists ends (run ++ rest)
  have grows : ∃ swallowed, taken = run ++ swallowed ∧ rest = swallowed ++ left := by
    rcases List.append_eq_append_iff.mp parts with ⟨swallowed, taken_eq, rest_eq⟩ | ⟨lost, run_eq, left_eq⟩
    · exact ⟨swallowed, taken_eq, rest_eq⟩
    · -- The run has no end of its own, so it cannot stop before its last character.
      cases lost with
      | nil => exact ⟨[], by simp_all, by simp_all⟩
      | cons c lost =>
        exfalso
        rcases stops with ended | ⟨atEnd, -⟩
        · rw [left_eq] at ended
          exact unended taken (c :: lost) run_eq (form.ended_of_append ended (by simp))
        · simp [atEnd] at left_eq
  obtain ⟨swallowed, rfl, rest_eq⟩ := grows
  obtain ⟨longer, longerForm, text_eq⟩ := form.extend swallowed
  exact ⟨swallowed, left, longer, rest_eq, .run longerForm stops, text_eq,
    fun types => ⟨form.cast_eq_text types, longerForm.cast_eq_text types⟩⟩

theorem LeavesOpen.cons {before text : List Char} {seg : Segment} (stands : seg.Stands before text)
    (opened : LeavesOpen (before ++ seg.text) text) : LeavesOpen before (seg.text ++ text) := by
  obtain ⟨left, last, cut, unclosed⟩ := opened
  refine ⟨seg :: left, last, segmentation_cons_iff.mpr ⟨text, rfl, stands, cut⟩, ?_⟩
  simpa using unclosed

/-- Casting a text and a separate one behind it casts the first alone, and then the other but for what the
    first swallows, which is nothing unless it leaves something open. -/
theorem castBehind_append (types : List (Option String)) (before text : List Char) {rest : List Char}
    (separate : Separate rest) :
    ∃ swallowed left, rest = swallowed ++ left ∧ (¬ LeavesOpen before text → swallowed = []) ∧
      castBehind types before (text ++ rest) =
        castBehind types before text ++ swallowed ++ castBehind types (before ++ text ++ swallowed) left := by
  obtain ⟨segs, cut⟩ := segmentation_exists before text
  -- By the segments of the text: only the last one may reach into what follows, and only if it is left open.
  induction segs generalizing before text with
  | nil =>
    rw [segmentation_nil_iff.mp cut]
    exact ⟨[], rest, rfl, fun _ => rfl, by simp⟩
  | cons seg segs ih =>
    obtain ⟨text, rfl, stands, later⟩ := segmentation_cons_iff.mp cut
    by_cases opened : text = [] ∧ seg.Unclosed before
    · obtain ⟨rfl, unclosed⟩ := opened
      obtain ⟨swallowed, left, longer, rfl, longerStands, text_eq, kept⟩ := unclosed.extend rest
      refine ⟨swallowed, left, rfl, ?_, ?_⟩
      · intro closed
        exact absurd ⟨[], seg, segmentation_cons_iff.mpr ⟨[], rfl, stands, segmentation_nil_iff.mpr rfl⟩,
          by simpa using unclosed⟩ closed
      · have first := castBehind_of_stands types stands
        have whole := castBehind_of_stands types longerStands
        rw [List.append_nil, castBehind_nil, List.append_nil, (kept types).1] at first
        rw [(kept types).2, text_eq] at whole
        simpa [first] using whole
    · have closed : text = [] → ¬ seg.Unclosed before := fun atEnd unclosed => opened ⟨atEnd, unclosed⟩
      obtain ⟨swallowed, left, rest_eq, nothing, cast_eq⟩ := ih (before ++ seg.text) text later
      refine ⟨swallowed, left, rest_eq, fun closed => nothing fun opened => closed (opened.cons stands), ?_⟩
      rw [List.append_assoc, castBehind_of_stands types (stands.append closed separate), cast_eq,
        castBehind_of_stands types stands]
      simp

/-! ## Texts that casting leaves as they are -/

theorem cast_eq_text {seg : Segment} (noReference : '$' ∉ seg.text) (types : List (Option String)) :
    seg.cast types = seg.text := by
  cases seg with
  | reference => simp [Segment.text] at noReference
  | _ => rfl

/-- A text without a dollar sign has no reference, whatever it stands behind. -/
theorem castBehind_of_no_dollar {text : List Char} (noDollar : '$' ∉ text) (types : List (Option String))
    (before : List Char) : castBehind types before text = text := by
  obtain ⟨segs, cut⟩ := segmentation_exists before text
  rw [castBehind_of_segmentation cut]
  refine Eq.trans (List.flatMap_congr fun seg member => cast_eq_text (fun dollar => noDollar ?_) types) cut.1
  rw [← cut.1]
  exact List.mem_flatMap_of_mem member dollar

/-- The characters that start segments of many. -/
def openingMarks : List Char :=
  [literalMark, identifierMark, '-', '/', '$']

/-- A text in which every character is a segment. -/
def Ordinary (text : List Char) : Prop :=
  ∀ c ∈ text, c ∉ openingMarks

-- Named, since the bounded quantifier alone may be decided over all characters.
instance (text : List Char) : Decidable (Ordinary text) :=
  List.decidableBAll (· ∉ openingMarks) text

theorem castBehind_ordinary {text : List Char} (ordinary : Ordinary text)
    (types : List (Option String)) (before rest : List Char) :
    castBehind types before (text ++ rest) = text ++ castBehind types (before ++ text) rest := by
  induction text generalizing before with
  | nil => simp
  | cons c text ih =>
    have single : ¬ Opens before (c :: (text ++ rest)) := by
      have first := ordinary c (by simp)
      simp only [openingMarks, List.mem_cons, not_or] at first
      simp [opens_iff, first]
    have step := castBehind_of_stands types (.other single)
    simp only [Segment.text, Segment.cast, List.cons_append, List.nil_append] at step
    rw [List.cons_append, step, ih fun d member => ordinary d (by simp [member])]
    simp

/-- A text that casting leaves as it is, wherever it stands and whatever separate text follows. -/
def Passes (types : List (Option String)) (text : String) : Prop :=
  ∀ before rest, Separate rest → castBehind types before (text.toList ++ rest) =
    text.toList ++ castBehind types (before ++ text.toList) rest

section
variable {types : List (Option String)}

theorem passes_ordinary {text : String} (ordinary : Ordinary text.toList) : Passes types text :=
  fun before rest _ => castBehind_ordinary ordinary types before rest

theorem Passes.behind_ordinary {text : String} (other : String) (ordinary : Ordinary other.toList)
    (passes : Passes types text) : Passes types (other ++ text) := by
  intro before rest separate
  rw [String.toList_append, List.append_assoc, castBehind_ordinary ordinary, passes _ _ separate]
  simp

theorem Separate.append {text rest : List Char} (apart : Separate text) (separate : Separate rest) :
    Separate (text ++ rest) := by
  cases text with
  | nil => exact separate
  | cons c text => exact separate_cons (apart c rfl) _

theorem Passes.append {text other : String} (first : Passes types text) (second : Passes types other)
    (apart : Separate other.toList) : Passes types (text ++ other) := by
  intro before rest separate
  rw [String.toList_append, List.append_assoc, first _ _ (apart.append separate), second _ _ separate]
  simp

theorem quotedBody_name (name : List Char) : QuotedBody identifierMark False (name.flatMap quotedChar) := by
  induction name with
  | nil => exact .nil
  | cons c name ih =>
    rw [List.flatMap_cons, quotedChar]
    split
    · exact .doubled ih
    · rename_i other
      exact .plain other False.elim ih

theorem quoted_parts (name : String) :
    (quoted name).toList = identifierMark :: (name.toList.flatMap quotedChar ++ [identifierMark]) := by
  simp [quoted, identifierMark]

/-- A quoted name is one segment, whatever the name. -/
theorem quoted_stands (name : String) (before : List Char) {rest : List Char}
    (single : rest.head? ≠ some identifierMark) :
    (Segment.identifier (quoted name).toList).Stands before rest := by
  rw [quoted_parts]
  exact .run (.identifier _) (.inl ⟨_, rfl, quotedBody_name name.toList, single⟩)

theorem passes_quoted (name : String) : Passes types (quoted name) := by
  intro before rest separate
  have single : rest.head? ≠ some identifierMark := fun first => absurd (separate _ first) (by decide)
  have step := castBehind_of_stands types (quoted_stands name before single)
  simpa only [Segment.text, Segment.cast] using step

theorem passes_intercalate {texts : List String} (passes : ∀ text ∈ texts, Passes types text) :
    Passes types (", ".intercalate texts) := by
  induction texts with
  | nil => exact passes_ordinary (by decide)
  | cons text texts ih =>
    cases texts with
    | nil => simpa using passes text (by simp)
    | cons next texts =>
      have later := (ih fun text member => passes text (by simp [member])).behind_ordinary ", " (by decide)
      rw [String.intercalate_cons_cons, String.append_assoc]
      exact (passes text (by simp)).append later (by simpa using separate_cons (by decide) _)

theorem passes_quotedName (t : Table) : Passes types t.quotedName := by
  rw [Table.quotedName, String.append_assoc]
  refine (passes_quoted t.schema).append ((passes_quoted t.name).behind_ordinary "." (by decide)) ?_
  simpa using separate_cons (by decide) _

/-! ## Placeholders of columns -/

/-- A reference beyond the known types is left as it is. -/
theorem castBehind_reference {n : Nat} (beyond : types.length < n) {before rest : List Char}
    (apart : ¬ EndsInWord before) (stop : ∀ c, rest.head? = some c → c.isDigit = false) :
    castBehind types before ((reference n).toList ++ rest) =
      (reference n).toList ++ castBehind types (before ++ (reference n).toList) rest := by
  have stands : (Segment.reference (Nat.toDigits 10 n)).Stands before rest :=
    .reference apart Nat.toDigits_ne_nil
      (fun d digit => Nat.isDigit_of_mem_toDigits (by decide) (by decide) digit) stop
  have unknown : typeOf? types (Nat.toDigits 10 n) = none := by
    rw [Option.eq_none_iff_forall_ne_some]
    intro type found
    obtain ⟨m, number, known⟩ := typeOf?_eq_some_iff.mp found
    have inside := (List.getElem?_eq_some_iff.mp known).1
    rw [Nat.ofDigitChars_ten_toDigits] at number
    omega
  have step := castBehind_of_stands types stands
  simpa only [Segment.text, Segment.cast, unknown, toList_reference] using step

/-- The name of a type that leaves nothing open and holds no reference. -/
def Inert (type : String) : Prop :=
  ¬ LeavesOpen [] type.toList ∧
    ∀ segs, Segmentation [] type.toList segs → ∀ digits, Segment.reference digits ∉ segs

theorem Segment.Form.not_ordinary {before run : List Char} {seg : Segment}
    {ends : List Char → List Char → Prop} (form : seg.Form before run ends) : ∃ c ∈ seg.text, c ∈ openingMarks := by
  cases form with
  | literal => exact ⟨literalMark, by simp [Segment.text], by decide⟩
  | identifier => exact ⟨identifierMark, by simp [Segment.text], by decide⟩
  | lineComment => exact ⟨'-', by simp [Segment.text], by decide⟩
  | blockComment => exact ⟨'/', by simp [Segment.text], by decide⟩
  | dollarBody => exact ⟨'$', by simp [Segment.text, delimiter], by decide⟩

theorem inert_ordinary {type : String} (ordinary : Ordinary type.toList) : Inert type := by
  have inside {segs : List Segment} (cut : Segmentation [] type.toList segs) {seg : Segment}
      (member : seg ∈ segs) {c : Char} (within : c ∈ seg.text) : c ∉ openingMarks := by
    refine ordinary c ?_
    rw [← cut.1]
    exact List.mem_flatMap_of_mem member within
  constructor
  · rintro ⟨left, seg, cut, run, ends, form, -⟩
    obtain ⟨c, within, special⟩ := form.not_ordinary
    exact inside cut (by simp) within special
  · intro segs cut digits member
    have dollar : '$' ∉ openingMarks := inside cut member (by simp [Segment.text])
    exact absurd dollar (by decide)

/-- The quoted name of a type holds no reference, whatever the name. -/
theorem inert_quoted (name : String) : Inert (quoted name) := by
  have alone : Segmentation [] (quoted name).toList [.identifier (quoted name).toList] :=
    segmentation_cons_iff.mpr ⟨[], by simp [Segment.text], quoted_stands name [] (by simp),
      segmentation_nil_iff.mpr rfl⟩
  have unique {segs : List Segment} (cut : Segmentation [] (quoted name).toList segs) :
      segs = [.identifier (quoted name).toList] :=
    (segmentation_iff.mp cut).trans (segmentation_iff.mp alone).symm
  constructor
  · rintro ⟨left, seg, cut, run, ends, form, unended⟩
    obtain ⟨rfl, rfl⟩ : left = [] ∧ seg = .identifier (quoted name).toList := by
      simpa [List.append_eq_singleton_iff] using unique cut
    rw [quoted_parts] at form
    cases form
    exact unended _ [] (by simp) ⟨_, rfl, quotedBody_name name.toList, by simp⟩
  · intro segs cut digits member
    simp [unique cut] at member

theorem Inert.castBehind_eq {type : String} (inert : Inert type) {before rest : List Char}
    (alike : Alike before []) (separate : Separate rest) :
    castBehind types before (type.toList ++ rest) =
      type.toList ++ castBehind types (before ++ type.toList) rest := by
  have alone : castBehind types before type.toList = type.toList := by
    obtain ⟨segs, cut⟩ := segmentation_exists [] type.toList
    rw [castBehind_of_alike alike, castBehind_of_segmentation cut]
    refine Eq.trans (List.flatMap_congr fun seg member => ?_) cut.1
    cases seg with
    | reference digits => exact absurd member (inert.2 segs cut digits)
    | _ => rfl
  obtain ⟨swallowed, left, rfl, nothing, cast_eq⟩ := castBehind_append types before type.toList separate
  rw [nothing fun opened => inert.1 (opened.of_alike alike)] at cast_eq ⊢
  simpa [alone] using cast_eq

/-- A placeholder is left as it is where its reference is beyond the known types. -/
theorem castBehind_placeholder {c : Column} (inert : Inert c.typeName) {n : Nat} (beyond : types.length < n)
    {before rest : List Char} (apart : ¬ EndsInWord before) (separate : Separate rest) :
    castBehind types before ((c.placeholder n).toList ++ rest) =
      (c.placeholder n).toList ++ castBehind types (before ++ (c.placeholder n).toList) rest := by
  unfold Column.placeholder
  split
  · have stop : ∀ c, ("::text".toList ++ rest).head? = some c → c.isDigit = false := by simp
    have step := castBehind_reference beyond apart stop
    rw [String.toList_append, List.append_assoc, step, castBehind_ordinary (by decide)]
    simp
  · have stop : ∀ d, ("::text::".toList ++ (c.typeName.toList ++ rest)).head? = some d → d.isDigit = false := by
      simp
    have step := castBehind_reference beyond apart stop
    have alike : Alike (before ++ (reference n).toList ++ "::text::".toList) [] := by
      simpa using alike_nil (by decide : isWordChar ':' = false)
        (before ++ (reference n).toList ++ "::text:".toList)
    rw [String.toList_append, String.toList_append, List.append_assoc, List.append_assoc, step,
      castBehind_ordinary (by decide), inert.castBehind_eq alike separate]
    simp

theorem passes_setText {a : Assignment} (beyond : types.length < a.position)
    (inert : Inert a.column.typeName) : Passes types (setText a) := by
  intro before rest separate
  have apart : ¬ EndsInWord (before ++ a.column.quotedName.toList ++ " = ".toList) := by
    have blank := endsInWord_concat (before ++ a.column.quotedName.toList ++ " =".toList) ' '
    simpa using mt blank.mp (by decide)
  -- The blank behind the quoted name ends its segment, and the one behind the sign lets the reference start.
  have next : Separate (" = ".toList ++ (a.placeholder.toList ++ rest)) := separate_cons (by decide) _
  rw [setText, String.toList_append, String.toList_append, List.append_assoc, List.append_assoc]
  rw [Column.quotedName, passes_quoted a.column.name before _ next, ← Column.quotedName,
    castBehind_ordinary (by decide)]
  rw [Assignment.placeholder, castBehind_placeholder inert beyond apart separate]
  simp

/-! ## Statements around an expression -/

/-- What is between a text that passes and one that is separate is cast as if it stood alone, where the text
    behind has no dollar sign, or nothing is left open and the text behind has no reference. -/
theorem castReferences_between {start statement tail : String} (passes : Passes types start)
    (separate : Separate tail.toList)
    (kept : '$' ∉ tail.toList ∨
      ¬ LeavesOpen [] statement.toList ∧ ∀ before, castBehind types before tail.toList = tail.toList) :
    castReferences (start ++ " " ++ "WHERE " ++ statement ++ tail) types =
      start ++ " " ++ "WHERE " ++ castReferences statement types ++ tail := by
  have alike : Alike (start.toList ++ " WHERE ".toList) [] := by
    simpa using alike_nil (by decide : isWordChar ' ' = false) (start.toList ++ " WHERE".toList)
  have inner : castBehind types [] (statement.toList ++ tail.toList) =
      castBehind types [] statement.toList ++ tail.toList := by
    obtain ⟨swallowed, left, parts, nothing, cast_eq⟩ := castBehind_append types [] statement.toList separate
    rw [cast_eq]
    -- What is swallowed is kept as it is; what is left has no dollar sign, or nothing is swallowed at all.
    rcases kept with noDollar | ⟨closed, kept⟩
    · have silent : '$' ∉ left := fun member => noDollar (by simp [parts, member])
      rw [castBehind_of_no_dollar silent, parts, List.append_assoc]
    · rw [nothing closed, List.nil_append] at parts
      rw [nothing closed, ← parts, kept, List.append_nil]
  have next : Separate (" WHERE ".toList ++ (statement.toList ++ tail.toList)) := separate_cons (by decide) _
  have whole : castBehind types [] (start.toList ++ (" WHERE ".toList ++ (statement.toList ++ tail.toList))) =
      start.toList ++ " WHERE ".toList ++ castBehind types [] statement.toList ++ tail.toList := by
    rw [passes [] _ next, castBehind_ordinary (by decide), List.nil_append, castBehind_of_alike alike, inner]
    simp
  apply String.toList_inj.mp
  simpa [castReferences_eq] using whole

/-- The text before a statement whose rows are given as one JSON array, and the text behind it. -/
def jsonHead : String :=
  "WITH q AS ("

def jsonTail : String :=
  ") SELECT COALESCE(json_agg(row_to_json(q)), '[]'::json) FROM q"

theorem jsonText_eq (text : String) : jsonText text = jsonHead ++ text ++ jsonTail := rfl

theorem condition_expression {e : Expression} (written : isBlankText e.statement = false) (t : Table) :
    (Filter.expression e).condition t = .expression e := by
  simp [Filter.condition, Expression.condition, written]

theorem ne_empty_of_append {start rest : String} (some_start : start ≠ "") : start ++ rest ≠ "" :=
  fun empty => some_start (String.append_eq_empty_iff.mp empty).1

theorem joinClauses_of_ne_empty {clauses : List String} (written : ∀ clause ∈ clauses, clause ≠ "") :
    joinClauses clauses = " ".intercalate clauses := by
  rw [joinClauses, List.filter_eq_self.mpr (by simpa using written)]

theorem updateHead_ne_empty (t : Table) (assignments : List Assignment) : updateHead t assignments ≠ "" := by
  simp only [updateHead, String.append_assoc]
  exact ne_empty_of_append (by decide)

theorem selectHead_ne_empty (t : Table) (selection : Selection) : selectHead t selection ≠ "" := by
  simp only [selectHead, String.append_assoc]
  exact ne_empty_of_append (by decide)

theorem condition_text_ne_empty (e : Expression) : (Condition.expression e).text ≠ "" :=
  ne_empty_of_append (by decide)

theorem pageText_ne_empty (page : Page) : page.text ≠ "" := by
  simp only [Page.text, String.append_assoc]
  exact ne_empty_of_append (by decide)

theorem update_expression {t : Table} {e : Expression} {payload : Payload}
    (written : isBlankText e.statement = false)
    (assigned : payload.assignments t e.arguments.length ≠ []) :
    (update t (.expression e) payload).map (·.asJson.text) =
      .ok (jsonHead ++ updateHead t (payload.assignments t e.arguments.length) ++ " " ++ "WHERE " ++
        e.statement ++ (" " ++ "RETURNING *" ++ jsonTail)) := by
  have count : (Condition.expression e).parameters.length = e.arguments.length := by
    simp [Condition.parameters]
  have clauses : ∀ clause ∈ [updateHead t (payload.assignments t e.arguments.length),
      (Condition.expression e).text, "RETURNING *"], clause ≠ "" := by
    simp only [List.forall_mem_cons]
    exact ⟨updateHead_ne_empty t _, condition_text_ne_empty e, by decide, by simp⟩
  simp only [update, condition_expression written, count, Except.map, Statement.asJson, jsonText_eq]
  rw [joinClauses_of_ne_empty clauses]
  simp only [String.intercalate_cons_cons, String.intercalate_singleton, Condition.text, String.append_assoc]

theorem delete_expression {t : Table} {e : Expression} (written : isBlankText e.statement = false) :
    (delete t (.expression e)).map (·.asJson.text) =
      .ok (jsonHead ++ ("DELETE FROM " ++ t.quotedName) ++ " " ++ "WHERE " ++ e.statement ++
        (" RETURNING *" ++ jsonTail)) := by
  have restricted : Condition.expression e ≠ .all := by simp
  simp only [delete, condition_expression written, if_neg restricted, Except.map, Statement.asJson, jsonText_eq,
    Condition.text, String.append_assoc]

/-- The text behind the condition of a list: its order, its page, and the end of the statement. -/
def listTail (terms : List (Column × Direction)) (page : Page) : String :=
  (if terms = [] then "" else " " ++ Order.clause terms) ++ " " ++ page.text ++ jsonTail

theorem clause_ne_empty {terms : List (Column × Direction)} (some_term : terms ≠ []) :
    Order.clause terms ≠ "" := by
  unfold Order.clause
  split
  · contradiction
  · exact ne_empty_of_append (by decide)

theorem select_expression {t : Table} {e : Expression} (written : isBlankText e.statement = false)
    (selection : Selection) (page : Page) (order : Order) :
    (select t ⟨selection, .expression e, page, order⟩).asJson.text =
      jsonHead ++ selectHead t selection ++ " " ++ "WHERE " ++ e.statement ++
        listTail (order.effectiveTerms t) page := by
  unfold select
  simp only [condition_expression written, Statement.asJson, jsonText_eq, listTail]
  by_cases empty : order.effectiveTerms t = []
  · have unordered : joinClauses [selectHead t selection, (Condition.expression e).text,
        Order.clause [], page.text] =
        " ".intercalate [selectHead t selection, (Condition.expression e).text, page.text] := by
      simp [joinClauses, Order.clause, selectHead_ne_empty, condition_text_ne_empty, pageText_ne_empty]
    rw [empty, unordered, if_pos rfl]
    simp only [String.intercalate_cons_cons, String.intercalate_singleton, Condition.text, String.empty_append,
      String.append_assoc]
  · have clauses : ∀ clause ∈ [selectHead t selection, (Condition.expression e).text,
        Order.clause (order.effectiveTerms t), page.text], clause ≠ "" := by
      simp only [List.forall_mem_cons]
      exact ⟨selectHead_ne_empty t _, condition_text_ne_empty e, clause_ne_empty empty,
        pageText_ne_empty page, by simp⟩
    rw [joinClauses_of_ne_empty clauses, if_neg empty]
    simp only [String.intercalate_cons_cons, String.intercalate_singleton, Condition.text, String.append_assoc]

/-! ## Heads and tails -/

theorem passes_jsonHead {text : String} (passes : Passes types text) : Passes types (jsonHead ++ text) :=
  passes.behind_ordinary jsonHead (by decide)

theorem assignment_of_mem {t : Table} {payload : Payload} {offset : Nat} {a : Assignment}
    (member : a ∈ payload.assignments t offset) : a.column ∈ t.columns ∧ offset < a.position := by
  obtain ⟨i, inside, rfl⟩ := List.mem_mapIdx.mp member
  obtain ⟨entry, -, found⟩ := List.mem_filterMap.mp (List.getElem_mem inside)
  obtain ⟨c, named, entry_eq⟩ := Option.map_eq_some_iff.mp found
  refine ⟨?_, ?_⟩
  · rw [Payload.assign, ← entry_eq]
    exact List.mem_of_find?_eq_some named
  · simp only [Payload.assign]
    omega

/-- A payload that names a column assigns something. -/
theorem assignments_ne_nil {t : Table} {payload : Payload} (named : ∃ name ∈ payload.keys, (t.column? name).isSome)
    (offset : Nat) : payload.assignments t offset ≠ [] := by
  obtain ⟨name, member, known⟩ := named
  obtain ⟨entry, inside, rfl⟩ := List.mem_map.mp member
  obtain ⟨c, found⟩ := Option.isSome_iff_exists.mp known
  have some_known : (c, entry.2) ∈ payload.known t :=
    List.mem_filterMap.mpr ⟨entry, inside, by simp [found]⟩
  intro nothing
  rw [Payload.assignments, List.mapIdx_eq_nil_iff] at nothing
  simp [nothing] at some_known

theorem passes_updateHead {t : Table} {payload : Payload} {offset : Nat} (few : types.length ≤ offset)
    (inert : ∀ c ∈ t.columns, Inert c.typeName) :
    Passes types (updateHead t (payload.assignments t offset)) := by
  have assigned : Passes types (", ".intercalate ((payload.assignments t offset).map setText)) := by
    refine passes_intercalate fun text member => ?_
    obtain ⟨a, assigned, rfl⟩ := List.mem_map.mp member
    obtain ⟨column, position⟩ := assignment_of_mem assigned
    exact passes_setText (by omega) (inert _ column)
  have table := (passes_quotedName t).append (assigned.behind_ordinary " SET " (by decide))
    (by simpa using separate_cons (by decide) _)
  simpa only [updateHead, String.append_assoc] using table.behind_ordinary "UPDATE " (by decide)

theorem passes_deleteHead (t : Table) : Passes types ("DELETE FROM " ++ t.quotedName) :=
  (passes_quotedName t).behind_ordinary "DELETE FROM " (by decide)

theorem passes_selectHead (t : Table) (selection : Selection) : Passes types (selectHead t selection) := by
  have columns : Passes types (selection.text t) := by
    refine passes_intercalate fun text member => ?_
    obtain ⟨c, -, rfl⟩ := List.mem_map.mp member
    exact passes_quoted c.name
  have table := columns.append ((passes_quotedName t).behind_ordinary " FROM " (by decide))
    (by simpa using separate_cons (by decide) _)
  simpa only [selectHead, String.append_assoc] using table.behind_ordinary "SELECT " (by decide)

theorem dollar_not_mem_repr (n : Nat) : '$' ∉ n.repr.toList := by
  intro member
  simp only [Nat.repr, String.toList_ofList] at member
  exact absurd (Nat.isDigit_of_mem_toDigits (by decide) (by decide) member) (by decide)

theorem dollar_not_mem_page (page : Page) : '$' ∉ (" " ++ page.text ++ jsonTail).toList := by
  have literals : '$' ∉ " ".toList ∧ '$' ∉ "LIMIT ".toList ∧ '$' ∉ " OFFSET ".toList ∧ '$' ∉ jsonTail.toList := by
    decide
  simp only [Page.text, String.toList_append, List.mem_append, dollar_not_mem_repr, literals, or_self,
    not_false_eq_true]

theorem passes_clause (terms : List (Column × Direction)) : Passes types (Order.clause terms) := by
  unfold Order.clause
  split
  · exact passes_ordinary (by decide)
  · refine Passes.behind_ordinary _ (by decide) (passes_intercalate fun text member => ?_)
    obtain ⟨⟨c, direction⟩, -, rfl⟩ := List.mem_map.mp member
    have ordinary : Ordinary direction.text.toList := by
      cases direction <;> decide
    rw [String.append_assoc]
    refine (passes_quoted c.name).append ((passes_ordinary ordinary).behind_ordinary " " (by decide)) ?_
    simpa using separate_cons (by decide) _

theorem castBehind_listTail (terms : List (Column × Direction)) (page : Page) (before : List Char) :
    castBehind types before (listTail terms page).toList = (listTail terms page).toList := by
  have rest : Separate (" " ++ page.text ++ jsonTail).toList := by
    simpa using separate_cons (by decide) _
  have whole : listTail terms page =
      (if terms = [] then "" else " " ++ Order.clause terms) ++ (" " ++ page.text ++ jsonTail) := by
    simp only [listTail, String.append_assoc]
  have order : Passes types (if terms = [] then "" else " " ++ Order.clause terms) := by
    split
    · exact passes_ordinary (by decide)
    · exact (passes_clause terms).behind_ordinary " " (by decide)
  rw [whole, String.toList_append, order before _ rest,
    castBehind_of_no_dollar (dollar_not_mem_page page)]

theorem separate_listTail (terms : List (Column × Direction)) (page : Page) :
    Separate (listTail terms page).toList := by
  unfold listTail
  split <;> simpa using separate_cons (by decide) _

/-! ## Statements -/

/-- For every expression that is not blank the statement puts it between the same texts, and casting the
    references of the whole casts those of the expression, as if it stood alone, and nothing else. -/
def CastsOnlyWithin (statement : Expression → Except StatementError Statement) (e : Expression)
    (types : List (Option String)) : Prop :=
  ∃ head tail : String,
    (∀ sql, isBlankText sql = false →
      (statement ⟨sql, e.arguments⟩).map (·.asJson.text) = .ok (head ++ sql ++ tail)) ∧
    castReferences (head ++ e.statement ++ tail) types = head ++ castReferences e.statement types ++ tail

/-- Casts reach the caller's expression and nothing else. An update or a deletion may leave it open; a list
    takes one that leaves nothing open, since names to order by stand behind it. -/
theorem castReferences_surrounded (t : Table) (e : Expression) (types : List (Option String)) :
    (∀ payload : Payload, (∀ c ∈ t.columns, Inert c.typeName) →
      (∃ name ∈ payload.keys, (t.column? name).isSome) → types.length ≤ e.arguments.length →
        CastsOnlyWithin (fun e => update t (.expression e) payload) e types) ∧
    CastsOnlyWithin (fun e => delete t (.expression e)) e types ∧
    (¬ LeavesOpen [] e.statement.toList → ∀ selection page order,
      CastsOnlyWithin (fun e => .ok (select t ⟨selection, .expression e, page, order⟩)) e types) := by
  refine ⟨?_, ?_, ?_⟩
  · intro payload inert named few
    have assigned := assignments_ne_nil named e.arguments.length
    refine ⟨jsonHead ++ updateHead t (payload.assignments t e.arguments.length) ++ " " ++ "WHERE ",
      " " ++ "RETURNING *" ++ jsonTail, fun sql written => update_expression written assigned, ?_⟩
    exact castReferences_between (passes_jsonHead (passes_updateHead few inert))
      (separate_cons (by decide) _) (.inl (by decide))
  · refine ⟨jsonHead ++ ("DELETE FROM " ++ t.quotedName) ++ " " ++ "WHERE ", " RETURNING *" ++ jsonTail,
      fun sql written => delete_expression written, ?_⟩
    exact castReferences_between (passes_jsonHead (passes_deleteHead t))
      (separate_cons (by decide) _) (.inl (by decide))
  · intro closed selection page order
    refine ⟨jsonHead ++ selectHead t selection ++ " " ++ "WHERE ", listTail (order.effectiveTerms t) page,
      fun sql written => congrArg Except.ok (select_expression written selection page order), ?_⟩
    exact castReferences_between (passes_jsonHead (passes_selectHead t selection))
      (separate_listTail _ page) (.inr ⟨closed, castBehind_listTail _ page⟩)

theorem closed_of_reference {text digits : List Char}
    (last : (segments [] text).getLast? = some (.reference digits)) : ¬ LeavesOpen [] text := by
  rintro ⟨left, seg, cut, run, ends, form, -⟩
  rw [← List.reverse_nil, ← segmentation_iff.mp cut, List.getLast?_concat] at last
  cases Option.some.inj last
  cases form

/-- A table with names that look like SQL. -/
def oddTable : Table :=
  ⟨"t$1--", "s\x22/*",
    [⟨"a\x22 = $1 --", 1043, "character varying", "varchar", true, true, none, true, none⟩,
      ⟨"$1", 16400, quoted "my$1 type", "my$1 type", false, true, none, false, none⟩]⟩

theorem castReferences_surrounded_oddTable :
    ((∀ c ∈ oddTable.columns, Inert c.typeName) ∧ ∃ name ∈ ["$1", "none"], (oddTable.column? name).isSome) ∧
    CastsOnlyWithin (fun e => update oddTable (.expression e) (.ofList [("$1", .null), ("none", .null)]))
      ⟨"a = $1 OR b = E'it\\'s $1", ["x"]⟩ [some "uuid"] ∧
    CastsOnlyWithin (fun e => delete oddTable (.expression e)) ⟨"a = $1 /* $1", ["x"]⟩ [some "uuid"] ∧
    (¬ LeavesOpen [] "a = 'it''s $1' OR b = $2".toList ∧
      CastsOnlyWithin (fun e => .ok (select oddTable ⟨["$1"], .expression e, .first, [⟨"$1", .descending⟩]⟩))
        ⟨"a = 'it''s $1' OR b = $2", ["x", "y"]⟩ [none, some "my type"]) := by
  have inert : ∀ c ∈ oddTable.columns, Inert c.typeName := by
    intro c member
    simp only [oddTable, List.mem_cons, List.not_mem_nil, or_false] at member
    rcases member with rfl | rfl
    · exact inert_ordinary (by decide)
    · exact inert_quoted "my$1 type"
  have known : ∃ name ∈ ["$1", "none"], (oddTable.column? name).isSome := by decide
  have closed : ¬ LeavesOpen [] "a = 'it''s $1' OR b = $2".toList := by
    have last : (segments [] "a = 'it''s $1' OR b = $2".toList).getLast? = some (.reference ['2']) := by cbv
    exact closed_of_reference last
  refine ⟨⟨inert, known⟩, ?_, ?_, closed, ?_⟩
  · exact (castReferences_surrounded oddTable _ _).1 _ inert known (by decide)
  · exact (castReferences_surrounded oddTable _ _).2.1
  · exact (castReferences_surrounded oddTable _ _).2.2 closed _ _ _

end
end TableGateway.Sql
