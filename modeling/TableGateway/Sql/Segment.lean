import TableGateway.Text.Letter

/-!
# Segments of SQL text

SQL text is a list of segments: string literals, quoted identifiers, comments, dollar bodies, references
to parameters, and single other characters. Each segment ends where its own closing rule says, or at the
end of the text. `segments` cuts a text from left to right; the texts of the segments, joined, are the text
again (`flatMap_text_segments`).

Only the characters right before a segment matter to where it starts: an `e` that begins a word makes the
literal behind it one with backslash escapes, and neither a reference nor a dollar body starts within a word.
-/
namespace TableGateway.Sql

/-- A segment with its whole text, but for a reference, which keeps its digits. -/
inductive Segment where
  | literal (text : List Char)
  | identifier (text : List Char)
  | lineComment (text : List Char)
  | blockComment (text : List Char)
  | dollarBody (text : List Char)
  | reference (digits : List Char)
  | other (c : Char)
  deriving DecidableEq, Repr

/-- The characters of a segment. -/
def Segment.text : Segment → List Char
  | .literal text => text
  | .identifier text => text
  | .lineComment text => text
  | .blockComment text => text
  | .dollarBody text => text
  | .reference digits => '$' :: digits
  | .other c => [c]

/-- The mark around a string literal. -/
def literalMark : Char := '\x27'

/-- The mark around a quoted identifier. -/
def identifierMark : Char := '\x22'

/-- Characters that a word goes on with. -/
def isWordChar (c : Char) : Bool :=
  isAlphanumeric c || c = '_' || c = '$'

/-- Holds when the text before, written backwards, ends in a word. -/
def endsInWord : List Char → Bool
  | c :: _ => isWordChar c
  | [] => false

/-- Holds when the text before, written backwards, ends in the word `e` or `E`. -/
def endsInEscapeMark : List Char → Bool
  | c :: before => (c = 'e' || c = 'E') && !endsInWord before
  | [] => false

/-- Cuts behind the mark that closes a quoted run. A doubled mark stays inside, and with `escapes` so
    does the character behind a backslash. -/
def splitQuoted (mark : Char) (escapes : Bool) : List Char → List Char × List Char
  | [] => ([], [])
  | [c] => ([c], [])
  | c :: d :: rest =>
    if escapes && c = '\\' then
      let split := splitQuoted mark escapes rest
      (c :: d :: split.1, split.2)
    else if c = mark then
      if d = mark then
        let split := splitQuoted mark escapes rest
        (c :: d :: split.1, split.2)
      else ([c], d :: rest)
    else
      let split := splitQuoted mark escapes (d :: rest)
      (c :: split.1, split.2)

/-- Cuts before the end of the line. -/
def splitLine (text : List Char) : List Char × List Char :=
  (text.takeWhile (· ≠ '\n'), text.dropWhile (· ≠ '\n'))

/-- Cuts behind the end of a block comment in which `inner` further ones are open. -/
def splitComment : (inner : Nat) → List Char → List Char × List Char
  | _, [] => ([], [])
  | _, [c] => ([c], [])
  | inner, c :: d :: rest =>
    if c = '/' ∧ d = '*' then
      let split := splitComment (inner + 1) rest
      (c :: d :: split.1, split.2)
    else if c = '*' ∧ d = '/' then
      match inner with
      | 0 => ([c, d], rest)
      | inner + 1 =>
        let split := splitComment inner rest
        (c :: d :: split.1, split.2)
    else
      let split := splitComment inner (d :: rest)
      (c :: split.1, split.2)

/-- Cuts behind the first occurrence of `mark`. -/
def splitThrough (mark : List Char) : List Char → List Char × List Char
  | [] => ([], [])
  | c :: rest =>
    if mark.isPrefixOf (c :: rest) then ((c :: rest).take mark.length, (c :: rest).drop mark.length)
    else
      let split := splitThrough mark rest
      (c :: split.1, split.2)

/-- Holds for the tags of dollar bodies: nothing, or a word that starts with no digit. -/
def isTag (tag : List Char) : Bool :=
  (match tag with
    | c :: _ => isAlphabetic c || c = '_'
    | [] => true) && tag.all fun c => isAlphanumeric c || c = '_'

/-- Cuts behind the dollar body that opens at a `$` before the text, if one does. -/
def splitBody? (text : List Char) : Option (List Char × List Char) :=
  let tag := text.takeWhile (· ≠ '$')
  match text.dropWhile (· ≠ '$') with
  | [] => none
  | _ :: body =>
    if isTag tag then
      let split := splitThrough ('$' :: tag ++ ['$']) body
      some (tag ++ '$' :: split.1, split.2)
    else none

/-- The segment that starts with `c`, and the text behind it. `before` is the text before it, backwards. -/
def firstSegment (before : List Char) (c : Char) (rest : List Char) : Segment × List Char :=
  if c = literalMark then
    let split := splitQuoted literalMark (endsInEscapeMark before) rest
    (.literal (c :: split.1), split.2)
  else if c = identifierMark then
    let split := splitQuoted identifierMark false rest
    (.identifier (c :: split.1), split.2)
  else if c = '-' ∧ rest.head? = some '-' then
    let split := splitLine rest
    (.lineComment (c :: split.1), split.2)
  else if c = '/' ∧ rest.head? = some '*' then
    let split := splitComment 0 rest.tail
    (.blockComment (c :: '*' :: split.1), split.2)
  else if c = '$' ∧ endsInWord before = false then
    if rest.takeWhile Char.isDigit ≠ [] then
      (.reference (rest.takeWhile Char.isDigit), rest.dropWhile Char.isDigit)
    else
      match splitBody? rest with
      | some split => (.dollarBody (c :: split.1), split.2)
      | none => (.other c, rest)
  else (.other c, rest)

/-! ## No character is lost -/

theorem splitQuoted_append (mark : Char) (escapes : Bool) (text : List Char) :
    (splitQuoted mark escapes text).1 ++ (splitQuoted mark escapes text).2 = text := by
  fun_induction splitQuoted mark escapes text <;> simp_all +zetaDelta

theorem splitLine_append (text : List Char) : (splitLine text).1 ++ (splitLine text).2 = text :=
  List.takeWhile_append_dropWhile

theorem splitComment_append (inner : Nat) (text : List Char) :
    (splitComment inner text).1 ++ (splitComment inner text).2 = text := by
  fun_induction splitComment inner text <;> simp_all +zetaDelta

theorem splitThrough_append (mark text : List Char) :
    (splitThrough mark text).1 ++ (splitThrough mark text).2 = text := by
  induction text with
  | nil => rfl
  | cons c rest ih =>
    unfold splitThrough
    split
    · exact List.take_append_drop ..
    · simp [ih]

theorem splitBody?_append {text : List Char} {split : List Char × List Char}
    (body : splitBody? text = some split) : split.1 ++ split.2 = text := by
  simp only [splitBody?] at body
  split at body
  · contradiction
  · rename_i first body' found
    split at body
    · have dollar : first = '$' := by
        have stopped := List.head?_dropWhile_not (· ≠ '$') text
        rw [found] at stopped
        simpa using stopped
      simp only [Option.some.injEq] at body
      subst body dollar
      have parts := List.takeWhile_append_dropWhile (p := (· ≠ '$')) (l := text)
      rw [found] at parts
      simp only [List.append_assoc, List.cons_append, splitThrough_append]
      exact parts
    · contradiction

theorem firstSegment_append (before : List Char) (c : Char) (rest : List Char) :
    (firstSegment before c rest).1.text ++ (firstSegment before c rest).2 = c :: rest := by
  unfold firstSegment
  split
  · simp [Segment.text, splitQuoted_append]
  · split
    · simp [Segment.text, splitQuoted_append]
    · split
      · simp [Segment.text, splitLine_append]
      · split
        · rename_i comment
          obtain ⟨_, head⟩ := comment
          cases rest with
          | nil => simp at head
          | cons d rest =>
            simp only [List.head?_cons, Option.some.injEq] at head
            simp [Segment.text, splitComment_append, head]
        · split
          · rename_i dollar
            split
            · simp [Segment.text, dollar.1]
            · split
              · rename_i split found
                simp [Segment.text, splitBody?_append found]
              · simp [Segment.text]
          · simp [Segment.text]

theorem text_ne_nil (before : List Char) (c : Char) (rest : List Char) :
    (firstSegment before c rest).1.text ≠ [] := by
  unfold firstSegment
  repeat' split
  all_goals simp [Segment.text]

theorem length_firstSegment_lt (before : List Char) (c : Char) (rest : List Char) :
    (firstSegment before c rest).2.length < (c :: rest).length := by
  have whole := congrArg List.length (firstSegment_append before c rest)
  have some_text := List.length_pos_iff.mpr (text_ne_nil before c rest)
  simp only [List.length_append] at whole
  omega

/-- The segments of a text that follows `before`, which is written backwards. -/
def segments (before : List Char) : List Char → List Segment
  | [] => []
  | c :: rest =>
    (firstSegment before c rest).1 ::
      segments ((firstSegment before c rest).1.text.reverse ++ before) (firstSegment before c rest).2
termination_by text => text.length
decreasing_by exact length_firstSegment_lt before c rest

/-- The segments, joined, are the text. -/
theorem flatMap_text_segments (before text : List Char) :
    (segments before text).flatMap Segment.text = text := by
  fun_induction segments before text with
  | case1 => rfl
  | case2 before c rest ih => rw [List.flatMap_cons, ih, firstSegment_append]

end TableGateway.Sql
