import Mathlib
import TableGateway.Sql.Parameter

/-!
# Array literals read again

An array literal is read one character after the other (`ArrayReading.step`). Braces nest and commas separate; an
element in quotes ends at the first quote that no backslash escapes, and within it a backslash stands for the
character behind it; an element without quotes is NULL or its own text. What stands for an element leads a reader that
expects one to that element (`reads_element`), so a literal is read as what it was written for (`literals_read`): it
is a literal as a whole only, and no text within it ends its own quotes.
-/
namespace TableGateway.Sql

/-- An element of an array: NULL, a text, or an array. -/
inductive Element where
  | null
  | text (value : String)
  | array (items : List Element)

mutual

/-- The element that a value stands for. -/
def Element.ofJson : Json → Element
  | .null => .null
  | .array items => .array (Element.ofItems items)
  | .string s => .text s
  | .object members => .text (Json.text (.object members))
  | .bool b => .text (Json.text (.bool b))
  | .number n => .text (Json.text (.number n))

/-- The elements that values stand for. -/
def Element.ofItems : List Json → List Element
  | [] => []
  | item :: rest => Element.ofJson item :: Element.ofItems rest

end

/-! ## Reading -/

/-- Where a reader stands within an array. -/
inductive Place where
  /-- Behind the opening brace. -/
  | first
  /-- Behind a comma. -/
  | next
  /-- Behind the characters of an element without quotes. -/
  | plain (chars : List Char)
  /-- Within quotes, behind the characters that are read so far. -/
  | quoted (chars : List Char)
  /-- Within quotes, behind a backslash. -/
  | escaped (chars : List Char)
  /-- Behind an element that has ended. -/
  | behind

/-- A reader: before the literal, within arrays, or behind the literal. Within arrays there are the elements of the
    arrays around the innermost one, those of the innermost one, and the place in it. -/
inductive ArrayReading where
  | start
  | within (around : List (List Element)) (items : List Element) (place : Place)
  | done (items : List Element)

/-- The element of characters without quotes. -/
def plainElement (chars : List Char) : Element :=
  if chars = ['N', 'U', 'L', 'L'] then .null else .text (String.ofList chars)

namespace ArrayReading

/-- Ends the innermost array. -/
def close (around : List (List Element)) (items : List Element) : ArrayReading :=
  match around with
  | [] => .done items
  | outer :: around => .within around (outer ++ [.array items]) .behind

/-- The first character of an element. -/
def begin (around : List (List Element)) (items : List Element) (c : Char) : Option ArrayReading :=
  if c = '\x7b' then some (.within (items :: around) [] .first)
  else if c = '\x22' then some (.within around items (.quoted []))
  else if c = '\x7d' ∨ c = ',' ∨ c = '\\' then none
  else some (.within around items (.plain [c]))

/-- A character behind an element that may end there. -/
def separate (around : List (List Element)) (items : List Element) (c : Char) : Option ArrayReading :=
  if c = ',' then some (.within around items .next)
  else if c = '\x7d' then some (close around items)
  else none

/-- Reads a character, if it may stand there. -/
def step : ArrayReading → Char → Option ArrayReading
  | .start, c => if c = '\x7b' then some (.within [] [] .first) else none
  | .within around items .first, c => if c = '\x7d' then some (close around items) else begin around items c
  | .within around items .next, c => begin around items c
  | .within around items (.plain chars), c =>
    if c = ',' ∨ c = '\x7d' then separate around (items ++ [plainElement chars]) c
    else if c = '\x7b' ∨ c = '\x22' ∨ c = '\\' then none
    else some (.within around items (.plain (chars ++ [c])))
  | .within around items (.quoted chars), c =>
    if c = '\\' then some (.within around items (.escaped chars))
    else if c = '\x22' then some (.within around (items ++ [.text (String.ofList chars)]) .behind)
    else some (.within around items (.quoted (chars ++ [c])))
  | .within around items (.escaped chars), c => some (.within around items (.quoted (chars ++ [c])))
  | .within around items .behind, c => separate around items c
  | .done _, _ => none

def run (reading : ArrayReading) (chars : List Char) : Option ArrayReading :=
  chars.foldlM step reading

end ArrayReading

/-- The elements of an array literal, if the text is one. -/
def readArray? (text : List Char) : Option (List Element) :=
  match ArrayReading.start.run text with
  | some (.done items) => some items
  | _ => none

/-- Holds where an element may begin. -/
def Place.Begins (place : Place) : Prop :=
  place = .first ∨ place = .next

/-- Holds within quotes. -/
def Place.InQuotes (place : Place) : Prop :=
  (∃ chars, place = .quoted chars) ∨ ∃ chars, place = .escaped chars

/-- A character that an element without quotes may hold. -/
def PlainChar (c : Char) : Prop :=
  c ≠ ',' ∧ c ≠ '\x7b' ∧ c ≠ '\x7d' ∧ c ≠ '\x22' ∧ c ≠ '\\'

/-- The last element has ended, as far as a comma or a brace can tell: the reader stands behind it, or it has no
    quotes. -/
inductive Ended (around : List (List Element)) : List Element → ArrayReading → Prop where
  | behind {items : List Element} : Ended around items (.within around items .behind)
  | plain {items : List Element} {chars : List Char} :
      Ended around (items ++ [plainElement chars]) (.within around items (.plain chars))

namespace ArrayReading
variable {around : List (List Element)} {items : List Element} {place : Place} {reading : ArrayReading} {c : Char}

theorem run_append (reading : ArrayReading) (front back : List Char) :
    reading.run (front ++ back) = (reading.run front).bind fun between => between.run back :=
  List.foldlM_append

theorem run_cons (reading : ArrayReading) (c : Char) (chars : List Char) :
    reading.run (c :: chars) = (reading.step c).bind fun between => between.run chars := rfl

@[simp] theorem run_nil (reading : ArrayReading) : reading.run [] = some reading := rfl

theorem step_ended (ended : Ended around items reading) (separates : c = ',' ∨ c = '\x7d') :
    reading.step c = separate around items c := by
  cases ended with
  | behind => rfl
  | plain => exact if_pos separates

/-! ## Elements without quotes -/

theorem plainElement_null : plainElement "NULL".toList = .null :=
  if_pos (by simp)

theorem plainElement_text {text : String} (apart : text ≠ "NULL") : plainElement text.toList = .text text := by
  have chars : text.toList ≠ ['N', 'U', 'L', 'L'] := fun same => apart (String.toList_injective same)
  rw [plainElement, if_neg chars, String.ofList_toList]

theorem begin_plain (plain : PlainChar c) : begin around items c = some (.within around items (.plain [c])) := by
  obtain ⟨comma, opens, closes, quote, backslash⟩ := plain
  simp [begin, comma, opens, closes, quote, backslash]

theorem step_begins (begins : place.Begins) (inside : c ≠ '\x7d') :
    step (.within around items place) c = begin around items c := by
  obtain rfl | rfl := begins
  · exact if_neg inside
  · rfl

theorem run_plain {chars : List Char} (plain : ∀ c ∈ chars, PlainChar c) (before : List Char) :
    run (.within around items (.plain before)) chars = some (.within around items (.plain (before ++ chars))) := by
  induction chars generalizing before with
  | nil => simp
  | cons c rest ih =>
    obtain ⟨comma, opens, closes, quote, backslash⟩ := plain c (.head _)
    have read : step (.within around items (.plain before)) c =
        some (.within around items (.plain (before ++ [c]))) := by
      simp [step, comma, opens, closes, quote, backslash]
    rw [run_cons, read, Option.bind_some, ih fun c member => plain c (.tail _ member)]
    simp

theorem reads_plain (begins : place.Begins) {chars : List Char} (some_chars : chars ≠ [])
    (plain : ∀ c ∈ chars, PlainChar c) :
    run (.within around items place) chars = some (.within around items (.plain chars)) := by
  obtain ⟨c, rest, rfl⟩ := List.exists_cons_of_ne_nil some_chars
  have first := plain c (.head _)
  rw [run_cons, step_begins begins first.2.2.1, begin_plain first, Option.bind_some,
    run_plain fun c member => plain c (.tail _ member)]
  rfl

/-! ## Elements in quotes -/

theorem run_elementChar (before : List Char) (c : Char) :
    run (.within around items (.quoted before)) (elementChar c) =
      some (.within around items (.quoted (before ++ [c]))) := by
  unfold elementChar
  split
  · rfl
  · rename_i ordinary
    obtain ⟨backslash, quote⟩ := not_or.mp ordinary
    simp [run_cons, step, backslash, quote]

theorem run_elementChars (before chars : List Char) :
    run (.within around items (.quoted before)) (chars.flatMap elementChar) =
      some (.within around items (.quoted (before ++ chars))) := by
  induction chars generalizing before with
  | nil => simp
  | cons c rest ih =>
    rw [List.flatMap_cons, run_append, run_elementChar, Option.bind_some, ih]
    simp

theorem toList_quotedElement (s : String) :
    (quotedElement s).toList = '\x22' :: s.toList.flatMap elementChar ++ ['\x22'] :=
  String.toList_ofList

theorem step_quote (begins : place.Begins) :
    step (.within around items place) '\x22' = some (.within around items (.quoted [])) := by
  rw [step_begins begins (by decide)]
  rfl

theorem reads_quoted (begins : place.Begins) (s : String) :
    run (.within around items place) (quotedElement s).toList = some (.within around (items ++ [.text s]) .behind) := by
  rw [toList_quotedElement, List.cons_append, run_cons, step_quote begins, Option.bind_some, run_append,
    run_elementChars, Option.bind_some]
  simp [run_cons, step]

theorem prefix_elementChar {front : List Char} (leads : front <+: elementChar c) :
    front = [] ∨ front = ['\\'] ∨ front = elementChar c := by
  unfold elementChar at leads ⊢
  split at leads
  · rename_i escapes
    rw [if_pos escapes]
    simp only [List.prefix_cons_iff, List.prefix_nil] at leads
    grind
  · rename_i ordinary
    rw [if_neg ordinary]
    simp only [List.prefix_cons_iff, List.prefix_nil] at leads
    grind

/-- Between its quotes a text never leaves them. -/
theorem inQuotes_elementChars {front : List Char} (before chars : List Char)
    (leads : front <+: chars.flatMap elementChar) :
    ∃ place, run (.within around items (.quoted before)) front = some (.within around items place) ∧
      place.InQuotes := by
  induction chars generalizing before front with
  | nil =>
    obtain rfl := List.prefix_nil.mp leads
    exact ⟨.quoted before, rfl, .inl ⟨before, rfl⟩⟩
  | cons c rest ih =>
    rw [List.flatMap_cons] at leads
    obtain short | ⟨later, rfl⟩ := List.prefix_or_prefix_of_prefix leads (List.prefix_append (elementChar c) _)
    · obtain rfl | rfl | rfl := prefix_elementChar short
      · exact ⟨.quoted before, rfl, .inl ⟨before, rfl⟩⟩
      · exact ⟨.escaped before, rfl, .inr ⟨before, rfl⟩⟩
      · exact ⟨_, run_elementChar before c, .inl ⟨_, rfl⟩⟩
    · rw [run_append, run_elementChar, Option.bind_some]
      exact ih (before ++ [c]) ((List.prefix_append_right_inj _).mp leads)

end ArrayReading

/-! ## Texts of numbers -/

/-- The characters of the text of a number. -/
def NumberChar (c : Char) : Prop :=
  c.isDigit = true ∨ c = '-' ∨ c = '+' ∨ c = '.' ∨ c = 'e'

theorem NumberChar.plain {c : Char} (number : NumberChar c) : PlainChar c := by
  unfold PlainChar
  obtain digit | rfl | rfl | rfl | rfl := number
  · refine ⟨?_, ?_, ?_, ?_, ?_⟩ <;> rintro rfl <;> exact absurd digit (by decide)
  all_goals decide

theorem numberChar_toDigits {n : Nat} {c : Char} (member : c ∈ Nat.toDigits 10 n) : NumberChar c :=
  .inl (Nat.isDigit_of_mem_toDigits (by decide) (by decide) member)

theorem numberChar_zeros {n : Nat} {c : Char} (member : c ∈ zeros n) : NumberChar c := by
  obtain rfl := List.eq_of_mem_replicate member
  exact .inl rfl

theorem numberChar_intText (n : Int) : ∀ c ∈ (intText n).toList, NumberChar c := by
  intro c member
  cases n with
  | ofNat n =>
    simp only [intText, Nat.repr_eq_ofList_toDigits, String.toList_ofList] at member
    exact numberChar_toDigits member
  | negSucc n =>
    simp only [intText, Nat.repr_eq_ofList_toDigits, String.toList_append, String.toList_ofList,
      List.mem_append] at member
    obtain sign | digit := member
    · obtain rfl : c = '-' := by simpa using sign
      exact .inr (.inl rfl)
    · exact numberChar_toDigits digit

theorem numberChar_chars (layout : DecimalLayout) (digits : Nat) (power : Int) :
    ∀ c ∈ layout.chars digits power, NumberChar c := by
  have written (n : Nat) : ∀ c ∈ Nat.toDigits 10 n, NumberChar c := fun _ => numberChar_toDigits
  have nulls (n : Nat) : ∀ c ∈ zeros n, NumberChar c := fun _ => numberChar_zeros
  have zero : NumberChar '0' := .inl rfl
  have point : NumberChar '.' := .inr (.inr (.inr (.inl rfl)))
  have mark : NumberChar 'e' := .inr (.inr (.inr (.inr rfl)))
  have parted (n : Nat) : ∀ c ∈ (Nat.toDigits 10 digits).take n ++ '.' :: (Nat.toDigits 10 digits).drop n,
      NumberChar c := by
    refine List.forall_mem_append.mpr ⟨fun c member => ?_, List.forall_mem_cons.mpr ⟨point, fun c member => ?_⟩⟩
    · exact written digits c (List.mem_of_mem_take member)
    · exact written digits c (List.mem_of_mem_drop member)
  unfold DecimalLayout.chars
  dsimp only
  split
  · split
    · refine List.forall_mem_append.mpr ⟨List.forall_mem_append.mpr ⟨written digits, nulls _⟩, ?_⟩
      simp [point, zero]
    · split
      · exact parted _
      · refine List.forall_mem_cons.mpr ⟨zero, List.forall_mem_cons.mpr ⟨point, ?_⟩⟩
        exact List.forall_mem_append.mpr ⟨nulls _, written digits⟩
  · refine List.forall_mem_append.mpr ⟨?_, List.forall_mem_cons.mpr ⟨mark, List.forall_mem_cons.mpr ⟨?_, written _⟩⟩⟩
    · split
      · exact written digits
      · exact parted 1
    · split
      · exact .inr (.inl rfl)
      · exact .inr (.inr (.inl rfl))

theorem chars_ne_nil (layout : DecimalLayout) (digits : Nat) (power : Int) : layout.chars digits power ≠ [] := by
  have some_digits : Nat.toDigits 10 digits ≠ [] := Nat.toDigits_ne_nil
  unfold DecimalLayout.chars
  dsimp only
  split_ifs <;> simp

theorem numberChar_text (n : Json.Number) : ∀ c ∈ n.text.toList, NumberChar c := by
  cases n with
  | integer n => exact numberChar_intText n
  | float x =>
    intro c member
    simp only [Json.Number.text, Binary64.text, String.toList_ofList] at member
    split at member
    · obtain rfl | member := List.mem_cons.mp member
      · exact .inr (.inl rfl)
      · exact numberChar_chars _ _ _ c member
    · exact numberChar_chars _ _ _ c member

theorem text_number_ne_nil (n : Json.Number) : n.text.toList ≠ [] := by
  cases n with
  | integer n => cases n <;> simp [Json.Number.text, intText, Nat.repr_eq_ofList_toDigits, Nat.toDigits_ne_nil]
  | float x =>
    simp only [Json.Number.text, Binary64.text, String.toList_ofList]
    split
    · exact List.cons_ne_nil _ _
    · exact chars_ne_nil _ _ _

/-! ## Elements -/

namespace ArrayReading
variable {around : List (List Element)} {items : List Element} {place : Place} {reading : ArrayReading}

theorem reads_unquoted {text : String} (begins : place.Begins) (some_chars : text.toList ≠ [])
    (plain : ∀ c ∈ text.toList, PlainChar c) :
    ∃ reading, run (.within around items place) text.toList = some reading ∧
      Ended around (items ++ [plainElement text.toList]) reading :=
  ⟨_, reads_plain begins some_chars plain, .plain⟩

/-- Between its braces an array is read as the list of its elements. -/
theorem reads_braces {values : List Json} (opens : reading.step '\x7b' = some (.within around [] .first))
    (inner : values ≠ [] → ∃ between,
      run (.within around [] .first) (",".intercalate (elementTexts values)).toList = some between ∧
        Ended around ([] ++ Element.ofItems values) between) :
    reading.run (elementText (.array values)).toList = some (close around (Element.ofItems values)) := by
  have parts : (elementText (.array values)).toList =
      '\x7b' :: ((",".intercalate (elementTexts values)).toList ++ ['\x7d']) := by
    simp [elementText]
  rw [parts, run_cons, opens, Option.bind_some, run_append]
  cases values with
  | nil => rfl
  | cons value rest =>
    obtain ⟨between, reads, ended⟩ := inner (List.cons_ne_nil value rest)
    rw [reads, Option.bind_some, run_cons, step_ended ended (.inr rfl)]
    rfl

mutual

/-- What stands for an element leads to it a reader that expects one. -/
theorem reads_element (value : Json) {place : Place} (begins : place.Begins) (around : List (List Element))
    (items : List Element) :
    ∃ reading, run (.within around items place) (elementText value).toList = some reading ∧
      Ended around (items ++ [Element.ofJson value]) reading := by
  cases value with
  | null =>
    rw [elementText, Element.ofJson, ← plainElement_null]
    exact reads_unquoted begins (by decide) (by simp [PlainChar])
  | bool b =>
    have apart : (Json.bool b).text ≠ "NULL" := by cases b <;> decide
    rw [elementText, Element.ofJson, ← plainElement_text apart]
    cases b <;> exact reads_unquoted begins (by decide) (by simp [Json.text, PlainChar])
  | number n =>
    have apart : n.text ≠ "NULL" := fun null => by simpa [NumberChar] using numberChar_text n 'N' (by simp [null])
    rw [elementText, Element.ofJson, Json.text, ← plainElement_text apart]
    exact reads_unquoted begins (text_number_ne_nil n) fun c member => (numberChar_text n c member).plain
  | string s => exact ⟨_, reads_quoted begins s, .behind⟩
  | object members => exact ⟨_, reads_quoted begins _, .behind⟩
  | array values =>
    have opens : step (.within around items place) '\x7b' = some (.within (items :: around) [] .first) := by
      rw [step_begins begins (by decide)]
      rfl
    exact ⟨_, reads_braces opens fun some_values => reads_items values some_values (.inl rfl) _ _, .behind⟩

/-- So the elements between braces lead a reader through all of them. -/
theorem reads_items (values : List Json) (some_values : values ≠ []) {place : Place} (begins : place.Begins)
    (around : List (List Element)) (items : List Element) :
    ∃ reading, run (.within around items place) (",".intercalate (elementTexts values)).toList = some reading ∧
      Ended around (items ++ Element.ofItems values) reading := by
  cases values with
  | nil => exact absurd rfl some_values
  | cons value rest =>
    obtain ⟨between, reads, ended⟩ := reads_element value begins around items
    cases rest with
    | nil => exact ⟨between, by simpa [elementTexts] using reads, by simpa [Element.ofItems] using ended⟩
    | cons next rest =>
      have later := reads_items (next :: rest) (List.cons_ne_nil next rest) (.inr rfl : Place.next.Begins) around
        (items ++ [Element.ofJson value])
      obtain ⟨reading, reads', ended'⟩ := later
      refine ⟨reading, ?_, by simpa [Element.ofItems] using ended'⟩
      have parts : (",".intercalate (elementTexts (value :: next :: rest))).toList =
          (elementText value).toList ++ ',' :: (",".intercalate (elementTexts (next :: rest))).toList := by
        simp [elementTexts, String.intercalate_cons_cons]
      rw [parts, run_append, reads, Option.bind_some, run_cons, step_ended ended (.inl rfl)]
      exact reads'

end

end ArrayReading

theorem readArray?_eq_some_iff {text : List Char} {items : List Element} :
    readArray? text = some items ↔ ArrayReading.start.run text = some (.done items) := by
  unfold readArray?
  split
  · rename_i read
    rw [read]
    simp
  · rename_i unread
    exact ⟨nofun, fun read => absurd read (unread items)⟩

/-- Behind the literal nothing is read. -/
theorem ArrayReading.run_done {items : List Element} {chars : List Char} (some_chars : chars ≠ []) :
    ArrayReading.run (.done items) chars = none := by
  obtain ⟨c, rest, rfl⟩ := List.exists_cons_of_ne_nil some_chars
  rfl

/-- A literal is read as the elements that it was written for; so literals of other elements are others. It is one as
    a whole only: the array does not close before its end, and a text within it does not leave its quotes. -/
theorem literals_read (items : List Json) :
    readArray? (arrayLiteral items).toList = some (Element.ofItems items) ∧
    (∀ others, Element.ofItems others ≠ Element.ofItems items → arrayLiteral others ≠ arrayLiteral items) ∧
    (∀ front back, (arrayLiteral items).toList = front ++ back → back ≠ [] → readArray? front = none) ∧
    (∀ (s : String) (around : List (List Element)) (before : List Element) (place : Place) (front back : List Char),
      place.Begins → (quotedElement s).toList = front ++ back → front ≠ [] → back ≠ [] →
        ∃ place', ArrayReading.run (.within around before place) front = some (.within around before place') ∧
          place'.InQuotes) := by
  have reads (items : List Json) : readArray? (arrayLiteral items).toList = some (Element.ofItems items) :=
    readArray?_eq_some_iff.mpr (ArrayReading.reads_braces rfl fun some_items =>
      ArrayReading.reads_items items some_items (.inl rfl) [] [])
  refine ⟨reads items, fun others apart same => ?_, fun front back parts some_back => ?_, ?_⟩
  · have read := reads others
    rw [same, reads items] at read
    exact apart (Option.some.inj read.symm)
  · refine Option.eq_none_iff_forall_ne_some.mpr fun early closed => ?_
    have whole := readArray?_eq_some_iff.mp (reads items)
    rw [parts, ArrayReading.run_append, readArray?_eq_some_iff.mp closed, Option.bind_some,
      ArrayReading.run_done some_back] at whole
    cases whole
  · intro s around before place front back begins parts some_front some_back
    obtain ⟨first, inner, rfl⟩ := List.exists_cons_of_ne_nil some_front
    rw [ArrayReading.toList_quotedElement, List.cons_append, List.cons_append, List.cons.injEq] at parts
    obtain ⟨rfl, parts⟩ := parts
    rw [ArrayReading.run_cons, ArrayReading.step_quote begins, Option.bind_some]
    -- The last quote is not read yet, as something is left.
    obtain rfl | leads := List.prefix_concat_iff.mp ⟨back, parts.symm⟩
    · exact absurd (by simpa using parts) some_back
    · exact ArrayReading.inQuotes_elementChars [] s.toList leads

/-- A literal in which quotes, a backslash, a comma and a brace stand within quotes. -/
example : readArray? "\x7bNULL,\"a\\\"\x7d,\\\\\",\x7b\x7d,\x7b7\x7d\x7d".toList =
    some [.null, .text "a\"\x7d,\\", .array [], .array [.text "7"]] := by
  rfl

end TableGateway.Sql
