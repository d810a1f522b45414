import TableGateway.Proofs.Segmentation
import TableGateway.Sql.Scan

/-!
# Scanning by positions stays within the text

The scanner that knows a text by its positions does what `firstSegment` does to what is left of the text there
(`Remains`): a turn finds the same segment and goes on where that ends (`segmentAt_eq`). So no turn ends with a
fault, each goes on at a later position that is not behind the text, and what comes of them is what the text is cut
into (`scan_ends_within_the_text`).
-/
namespace TableGateway.Sql.Scan

/-- What is left of a text from a position on, which is not behind the text. -/
structure Remains (text : List Char) (i : ℕ) (rest : List Char) : Prop where
  inside : i ≤ text.length
  drop_eq : text.drop i = rest

section
variable {text rest part : List Char} {i : ℕ} {c : Char}

namespace Remains

theorem of_le (inside : i ≤ text.length) : Remains text i (text.drop i) := ⟨inside, rfl⟩

theorem length_eq (remains : Remains text i rest) : i + rest.length = text.length := by
  obtain ⟨inside, rfl⟩ := remains
  rw [List.length_drop]
  omega

theorem eq_length (remains : Remains text i []) : i = text.length := remains.length_eq

theorem lt (remains : Remains text i (c :: rest)) : i < text.length := by
  have := remains.length_eq
  simp only [List.length_cons] at this
  omega

theorem getElem?_eq (remains : Remains text i rest) : text[i]? = rest.head? := by
  rw [← remains.drop_eq, List.head?_drop]

theorem behind (remains : Remains text i (part ++ rest)) : Remains text (i + part.length) rest := by
  have length := remains.length_eq
  rw [List.length_append] at length
  refine ⟨by omega, ?_⟩
  rw [← List.drop_drop, remains.drop_eq, List.drop_left]

theorem next (remains : Remains text i (c :: rest)) : Remains text (i + 1) rest := by
  have parts : Remains text i ([c] ++ rest) := remains
  exact parts.behind

theorem take_eq (remains : Remains text i (part ++ rest)) :
    text.take (i + part.length) = text.take i ++ part := by
  rw [List.take_add, remains.drop_eq, List.take_left]

theorem charAt_eq (remains : Remains text i (c :: rest)) : charAt text i = .ok c := by
  rw [charAt, remains.getElem?_eq]
  rfl

theorem next_eq (remains : Remains text i (c :: rest)) : text[i + 1]? = rest.head? :=
  remains.next.getElem?_eq

theorem slice_eq (remains : Remains text i (part ++ rest)) : slice text i (i + part.length) = .ok part := by
  rw [slice, if_pos ⟨by omega, remains.behind.inside⟩, List.drop_take, remains.drop_eq, Nat.add_sub_cancel_left,
    List.take_left]

theorem slice_rest (remains : Remains text i rest) : slice text i text.length = .ok rest := by
  have all : Remains text i (rest ++ []) := by rwa [List.append_nil]
  rw [← remains.length_eq, all.slice_eq]

end Remains

/-! ## Runs -/

theorem quotedEnd_ended {mark : Char} {escapes : Bool} (ended : text.length ≤ i) :
    quotedEnd text mark escapes i = .ok i := by
  rw [quotedEnd, if_neg (by omega)]

theorem quotedEnd_cons {mark : Char} {escapes : Bool} (remains : Remains text i (c :: rest)) :
    quotedEnd text mark escapes i =
      if escapes && c = '\\' then quotedEnd text mark escapes (i + 2)
      else if c = mark then
        if rest.head? = some mark then quotedEnd text mark escapes (i + 2) else .ok (i + 1)
      else quotedEnd text mark escapes (i + 1) := by
  rw [quotedEnd, if_pos remains.lt, remains.charAt_eq, ← remains.next_eq]
  rfl

/-- The loop over a quoted run ends with it, but for a skipped character that the text does not have. -/
theorem quotedEnd_eq (mark : Char) (escapes : Bool) (remains : Remains text i rest) :
    ∃ last, quotedEnd text mark escapes i = .ok last ∧ last ≤ text.length + 1 ∧
      min last text.length = i + (splitQuoted mark escapes rest).1.length := by
  induction rest using splitQuoted.induct mark escapes generalizing i with
  | case1 =>
    have ended := remains.eq_length
    exact ⟨i, quotedEnd_ended ended.ge, by omega, by simp [splitQuoted, ended]⟩
  | case2 c =>
    have ended := remains.next.eq_length
    rw [quotedEnd_cons remains, quotedEnd_ended (by omega), quotedEnd_ended (by omega)]
    -- The last character: what is behind it ends the loop, one position later where it is skipped.
    split
    · exact ⟨_, rfl, by omega, by simp [splitQuoted]; omega⟩
    · split <;> exact ⟨_, rfl, by omega, by simp [splitQuoted]; omega⟩
  | case3 c d rest escape ih =>
    obtain ⟨last, ends, bound, position⟩ := ih remains.next.next
    rw [quotedEnd_cons remains, if_pos escape, splitQuoted, if_pos escape]
    exact ⟨last, ends, bound, by simp [position]; omega⟩
  | case4 rest noEscape ih =>
    obtain ⟨last, ends, bound, position⟩ := ih remains.next.next
    rw [quotedEnd_cons remains, if_neg noEscape, if_pos rfl, List.head?_cons, if_pos rfl, splitQuoted,
      if_neg noEscape, if_pos rfl, if_pos rfl]
    exact ⟨last, ends, bound, by simp [position]; omega⟩
  | case5 d rest single noEscape =>
    have inside := remains.next.lt
    rw [quotedEnd_cons remains, if_neg noEscape, if_pos rfl, splitQuoted, if_neg noEscape, if_pos rfl, if_neg single]
    exact ⟨i + 1, by simp [single], by omega, by simp; omega⟩
  | case6 c d rest noEscape other ih =>
    obtain ⟨last, ends, bound, position⟩ := ih remains.next
    rw [quotedEnd_cons remains, if_neg noEscape, if_neg other, splitQuoted, if_neg noEscape, if_neg other]
    exact ⟨last, ends, bound, by simp [position]; omega⟩

theorem commentEnd_ended {opened : ℕ} (ended : text.length ≤ i) : commentEnd text opened i = .ok i := by
  rw [commentEnd, if_neg (by omega)]

theorem commentEnd_cons {opened : ℕ} (remains : Remains text i (c :: rest)) :
    commentEnd text opened i =
      if c = '/' ∧ rest.head? = some '*' then commentEnd text (opened + 1) (i + 2)
      else if c = '*' ∧ rest.head? = some '/' then
        (leave opened).bind fun opened => if opened = 0 then .ok (i + 2) else commentEnd text opened (i + 2)
      else commentEnd text opened (i + 1) := by
  rw [commentEnd, if_pos remains.lt, remains.charAt_eq, ← remains.next_eq]
  rfl

/-- The loop over a block comment ends with it, and never leaves a comment where none is open. -/
theorem commentEnd_eq (inner : ℕ) (remains : Remains text i rest) :
    commentEnd text (inner + 1) i = .ok (i + (splitComment inner rest).1.length) := by
  induction inner, rest using splitComment.induct generalizing i with
  | case1 inner =>
    rw [commentEnd_ended remains.eq_length.ge]
    simp [splitComment]
  | case2 inner c =>
    rw [commentEnd_cons remains, commentEnd_ended remains.next.eq_length.ge]
    simp [splitComment]
  | case3 inner c d rest start ih =>
    obtain ⟨rfl, rfl⟩ := start
    rw [commentEnd_cons remains, if_pos ⟨rfl, rfl⟩, ih remains.next.next]
    simp [splitComment]
    omega
  | case4 c d rest noStart stop =>
    obtain ⟨rfl, rfl⟩ := stop
    rw [commentEnd_cons remains, if_neg (by simp), if_pos ⟨rfl, rfl⟩]
    simp [splitComment, leave, Except.bind]
  | case5 c d rest noStart stop inner ih =>
    obtain ⟨rfl, rfl⟩ := stop
    rw [commentEnd_cons remains, if_neg (by simp), if_pos ⟨rfl, rfl⟩, leave, Except.bind]
    simp only [Nat.add_eq_zero_iff, Nat.one_ne_zero, and_false, if_false]
    rw [ih remains.next.next]
    simp [splitComment]
    omega
  | case6 inner c d rest noStart noStop ih =>
    have first : (d :: rest).head? = some d := rfl
    have longer : splitComment inner (c :: d :: rest) =
        (c :: (splitComment inner (d :: rest)).1, (splitComment inner (d :: rest)).2) := by
      rw [splitComment.eq_def]
      simp only [if_neg noStart, if_neg noStop]
    rw [commentEnd_cons remains, first, if_neg (by simpa using noStart), if_neg (by simpa using noStop),
      ih remains.next, longer, List.length_cons]
    congr 1
    omega

theorem copied_eq {last : ℕ} (remains : Remains text i (part ++ rest)) (ends : min last text.length = i + part.length) :
    copied text i last = .ok (part, i + part.length) := by
  rw [copied]
  simp only [ends, remains.slice_eq]
  rfl

theorem quotedRun_eq (mark : Char) (escapes : Bool) (remains : Remains text i (c :: rest)) :
    quotedRun text i mark escapes =
      .ok (c :: (splitQuoted mark escapes rest).1, i + (c :: (splitQuoted mark escapes rest).1).length) := by
  obtain ⟨last, ends, -, position⟩ := quotedEnd_eq mark escapes remains.next
  have parts : Remains text i (c :: (splitQuoted mark escapes rest).1 ++ (splitQuoted mark escapes rest).2) := by
    rwa [List.cons_append, splitQuoted_append]
  rw [quotedRun, ends]
  exact copied_eq parts (by rw [position, List.length_cons]; omega)

theorem blockComment_eq (remains : Remains text i ('/' :: '*' :: rest)) :
    blockComment text i =
      .ok ('/' :: '*' :: (splitComment 0 rest).1, i + ('/' :: '*' :: (splitComment 0 rest).1).length) := by
  have parts : Remains text i ('/' :: '*' :: (splitComment 0 rest).1 ++ (splitComment 0 rest).2) := by
    rwa [List.cons_append, List.cons_append, splitComment_append]
  have ends : commentEnd text 0 i = .ok (i + 2 + (splitComment 0 rest).1.length) := by
    rw [commentEnd_cons remains]
    exact commentEnd_eq 0 remains.next.next
  have bound := parts.behind.inside
  rw [blockComment, ends]
  exact copied_eq parts (by simp at bound ⊢; omega)

theorem findIdx?_getD (test : Char → Bool) (text : List Char) :
    (text.findIdx? test).getD text.length = (text.takeWhile fun c => !test c).length := by
  induction text with
  | nil => rfl
  | cons c rest ih =>
    rw [List.findIdx?_cons, List.takeWhile_cons]
    cases passes : test c with
    | true => simp
    | false => cases found : rest.findIdx? test <;> simp_all

theorem positionFrom_eq (test : Char → Bool) (remains : Remains text i rest) :
    positionFrom text i test = .ok (i + (rest.takeWhile fun c => !test c).length) := by
  have length := remains.length_eq
  rw [positionFrom, remains.slice_rest, ← findIdx?_getD]
  cases found : rest.findIdx? test <;> simp [bind, Except.bind, found, pure, Except.pure]
  omega

/-! ## Dollar bodies -/

theorem splitBody?_eq_none (noDollar : '$' ∉ rest) : splitBody? rest = none := by
  cases found : splitBody? rest with
  | none => rfl
  | some split =>
    obtain ⟨tag, body, -, rfl⟩ := exists_tag_of_splitBody? found
    exact absurd (by simp) noDollar

/-- The runs of a text are its first one and those of the text behind the first character. -/
theorem runs_cons {length : ℕ} (some_length : length ≠ 0) (c : Char) (rest : List Char) :
    runs length (c :: rest) =
      if length ≤ rest.length + 1 then (runs length rest).map ((c :: rest).take length :: ·) else .ok [] := by
  rw [runs, runs, if_neg some_length, if_neg some_length]
  split
  · rename_i fits
    have count : (c :: rest).length + 1 - length = rest.length + 1 - length + 1 := by
      simp only [List.length_cons]
      omega
    rw [count, List.range_succ_eq_map]
    simp [Except.map, Function.comp_def]
  · have count : (c :: rest).length + 1 - length = 0 := by
      simp only [List.length_cons]
      omega
    rw [count]
    rfl

theorem runs_short {length : ℕ} (some_length : length ≠ 0) (short : text.length < length) :
    runs length text = .ok [] := by
  rw [runs, if_neg some_length, show text.length + 1 - length = 0 by omega]
  rfl

/-- The first run that is the mark is where the text is cut behind it; without one, the text ends. -/
theorem runs_splitThrough {mark : List Char} (some_mark : mark ≠ []) (body : List Char) :
    ∃ found, runs mark.length body = .ok found ∧
      ((found.findIdx? (· = mark)).map (· + mark.length)).getD body.length = (splitThrough mark body).1.length := by
  have some_length : mark.length ≠ 0 := by simpa using some_mark
  have positive := List.length_pos_iff.mpr some_mark
  induction body with
  | nil => exact ⟨[], runs_short some_length positive, rfl⟩
  | cons c rest ih =>
    obtain ⟨found, later, position⟩ := ih
    rw [runs_cons some_length, later, splitThrough]
    split
    · rename_i fits
      refine ⟨_, rfl, ?_⟩
      have is_mark : (c :: rest).take mark.length = mark ↔ mark.isPrefixOf (c :: rest) = true := by
        rw [List.isPrefixOf_iff_prefix, List.prefix_iff_eq_take, eq_comm]
      rw [List.findIdx?_cons]
      simp only [is_mark, Bool.decide_eq_true]
      split
      · simp
        omega
      · simp only [List.length_cons, ← position]
        cases found.findIdx? (· = mark) <;> simp
        omega
    · rename_i short
      rw [runs_short some_length (by omega), Except.ok.injEq] at later
      have no_mark : ¬ mark.isPrefixOf (c :: rest) = true := by
        rw [List.isPrefixOf_iff_prefix]
        intro early
        have := early.length_le
        rw [List.length_cons] at this
        omega
      subst later
      exact ⟨[], rfl, by rw [if_neg no_mark, List.length_cons, List.length_cons, ← position]; rfl⟩

theorem splitBody?_behind {tag : List Char} (noDollar : '$' ∉ tag) (body : List Char) :
    splitBody? (tag ++ '$' :: body) =
      if isTag tag then
        some (tag ++ '$' :: (splitThrough (delimiter tag) body).1, (splitThrough (delimiter tag) body).2)
      else none := by
  have inside : ∀ c ∈ tag, decide (c ≠ '$') = true := by
    intro c member
    simpa using fun same : c = '$' => noDollar (same ▸ member)
  simp only [splitBody?, List.takeWhile_append_of_pos inside, List.dropWhile_append_of_pos inside]
  simp [delimiter]

theorem findIdx?_dollar {tag : List Char} (noDollar : '$' ∉ tag) (body : List Char) :
    (tag ++ '$' :: body).findIdx? (· = '$') = some tag.length := by
  induction tag with
  | nil => rfl
  | cons c tag ih =>
    rw [List.mem_cons, not_or] at noDollar
    rw [List.cons_append, List.findIdx?_cons, ih noDollar.2]
    simp [Ne.symm noDollar.1]

/-- A dollar body is found where one opens, and its end with it. -/
theorem bodyEnd?_eq (remains : Remains text i ('$' :: rest)) :
    bodyEnd? text i = .ok ((splitBody? rest).map fun split => i + 1 + split.1.length) := by
  have behind : slice text (i + 1) text.length = .ok rest := remains.next.slice_rest
  by_cases dollar : '$' ∈ rest
  · obtain ⟨tag, body, rfl, noDollar⟩ := List.eq_append_cons_of_mem dollar
    have tag_read : slice text (i + 1) (i + 1 + tag.length) = .ok tag := remains.next.slice_eq
    rw [bodyEnd?, behind, splitBody?_behind noDollar]
    simp only [bind, Except.bind, findIdx?_dollar noDollar, tag_read]
    by_cases valid : isTag tag = true
    · have parts : Remains text i (delimiter tag ++ body) := by simpa [delimiter] using remains
      have length : (delimiter tag).length = tag.length + 2 := by simp [delimiter]
      have mark_read : slice text i (i + tag.length + 2) = .ok (delimiter tag) := by
        rw [Nat.add_assoc, ← length]
        exact parts.slice_eq
      have some_mark : delimiter tag ≠ [] := by simp [delimiter]
      obtain ⟨found, runs_eq, position⟩ := runs_splitThrough some_mark body
      have all := parts.behind.length_eq
      simp only [if_pos valid, mark_read, parts.behind.slice_rest, runs_eq]
      refine congrArg Except.ok ?_
      rw [Option.map_some, List.length_append, List.length_cons, ← position]
      cases found.findIdx? (· = delimiter tag) <;> simp <;> omega
    · simp only [if_neg valid]
      rfl
  · have nowhere : rest.findIdx? (· = '$') = none := by
      rw [List.findIdx?_eq_none_iff]
      intro c member
      simpa using fun same : c = '$' => dollar (same ▸ member)
    rw [bodyEnd?, behind, splitBody?_eq_none dollar]
    simp only [bind, Except.bind, nowhere]
    rfl

/-! ## Turns -/

theorem charAt_eq (inside : i < text.length) : charAt text i = .ok text[i] := by
  rw [charAt, List.getElem?_eq_getElem inside]

theorem reverse_take (inside : i < text.length) : (text.take (i + 1)).reverse = text[i] :: (text.take i).reverse := by
  rw [List.take_succ_eq_append_getElem inside, List.reverse_concat]

theorem isBehindWord_eq (inside : i ≤ text.length) :
    isBehindWord text i = .ok (endsInWord (text.take i).reverse) := by
  cases i with
  | zero => rfl
  | succ i =>
    rw [isBehindWord, if_pos (Nat.succ_pos i), Nat.add_sub_cancel, charAt_eq inside, reverse_take inside]
    rfl

theorem isBehindEscapeMark_eq (inside : i ≤ text.length) :
    isBehindEscapeMark text i = .ok (endsInEscapeMark (text.take i).reverse) := by
  cases i with
  | zero => rfl
  | succ i =>
    rw [isBehindEscapeMark, if_pos (Nat.succ_pos i), Nat.add_sub_cancel, charAt_eq inside, reverse_take inside,
      endsInEscapeMark, Except.map]
    cases i with
    | zero => simp [endsInWord]
    | succ i =>
      have before : i < text.length := by omega
      rw [reverse_take before]
      simp [endsInWord, before]

theorem lineComment_read (remains : Remains text i ('-' :: rest)) :
    positionFrom text i (· = '\n') = .ok (i + ('-' :: (splitLine rest).1).length) ∧
      slice text i (i + ('-' :: (splitLine rest).1).length) = .ok ('-' :: (splitLine rest).1) := by
  have parts : Remains text i ('-' :: (splitLine rest).1 ++ (splitLine rest).2) := by
    rwa [List.cons_append, splitLine_append]
  refine ⟨?_, parts.slice_eq⟩
  rw [positionFrom_eq _ remains]
  simp [splitLine]

theorem reference_read (remains : Remains text i ('$' :: rest)) :
    positionFrom text (i + 1) (!·.isDigit) = .ok (i + 1 + (rest.takeWhile Char.isDigit).length) ∧
      slice text (i + 1) (i + 1 + (rest.takeWhile Char.isDigit).length) = .ok (rest.takeWhile Char.isDigit) := by
  have parts : Remains text (i + 1) (rest.takeWhile Char.isDigit ++ rest.dropWhile Char.isDigit) := by
    rw [List.takeWhile_append_dropWhile]
    exact remains.next
  refine ⟨?_, parts.slice_eq⟩
  rw [positionFrom_eq _ remains.next]
  simp

theorem dollarBody_read {split : List Char × List Char} (remains : Remains text i ('$' :: rest))
    (found : splitBody? rest = some split) :
    slice text i (i + ('$' :: split.1).length) = .ok ('$' :: split.1) := by
  have parts : Remains text i ('$' :: split.1 ++ split.2) := by
    rwa [List.cons_append, splitBody?_append found]
  exact parts.slice_eq

/-- A turn finds the segment that a text starts with behind what was read before, and goes on where it ends. -/
theorem segmentAt_eq (remains : Remains text i (c :: rest)) :
    segmentAt text i = .ok ((firstSegment (text.take i).reverse c rest).1,
      i + (firstSegment (text.take i).reverse c rest).1.text.length) := by
  have marks := isBehindEscapeMark_eq remains.inside
  have word := isBehindWord_eq remains.inside
  rw [segmentAt, remains.charAt_eq]
  simp only [firstSegment, bind, Except.bind, marks, word, quotedRun_eq _ _ remains, remains.next_eq]
  split
  · rfl
  split
  · rfl
  split
  · rename_i dashes
    obtain ⟨rfl, -⟩ := dashes
    obtain ⟨position, part⟩ := lineComment_read remains
    simp only [position, part]
    rfl
  split
  · rename_i opens
    obtain ⟨rfl, star⟩ := opens
    obtain ⟨more, rfl⟩ := List.head?_eq_some_iff.mp star
    simp only [blockComment_eq remains]
    rfl
  split
  · rename_i dollar
    subst dollar
    obtain ⟨position, part⟩ := reference_read remains
    simp only [position, part, bodyEnd?_eq remains]
    have some_digit : i + 1 < i + 1 + (rest.takeWhile Char.isDigit).length ↔ rest.takeWhile Char.isDigit ≠ [] := by
      rw [← List.length_pos_iff]
      omega
    cases inWord : endsInWord (text.take i).reverse with
    | true => cases splitBody? rest <;> simp [Segment.text, pure, Except.pure]
    | false =>
      simp only [some_digit, and_true, if_true]
      split
      · simp [Segment.text, pure, Except.pure]
        omega
      · cases found : splitBody? rest with
        | none => rfl
        | some split =>
          have whole : i + 1 + split.1.length = i + ('$' :: split.1).length := by
            rw [List.length_cons]
            omega
          simp only [Option.map_some, whole, dollarBody_read remains found]
          rfl
  · rename_i noDollar
    simp [noDollar, Segment.text, pure, Except.pure]

/-! ## The whole scan -/

/-- The segments that turns find from a position on are those that the text is cut into there. -/
theorem Scans.eq_segments {segs : List Segment} (scans : Scans text i segs) (remains : Remains text i rest) :
    segs = segments (text.take i).reverse rest := by
  induction scans generalizing rest with
  | atEnd behind =>
    have length := remains.length_eq
    obtain rfl : rest = [] := List.eq_nil_of_length_eq_zero (by omega)
    rw [segments]
  | @turn i next seg segs inside found later ih =>
    cases rest with
    | nil => exact absurd remains.eq_length inside.ne
    | cons c rest =>
      rw [segmentAt_eq remains, Except.ok.injEq, Prod.mk.injEq] at found
      obtain ⟨rfl, rfl⟩ := found
      rw [← firstSegment_append (text.take i).reverse c rest] at remains
      rw [ih remains.behind, remains.take_eq, List.reverse_append, segments]

theorem scans_segments (remains : Remains text i rest) : Scans text i (segments (text.take i).reverse rest) := by
  generalize before_eq : (text.take i).reverse = before
  induction before, rest using segments.induct generalizing i with
  | case1 before =>
    rw [segments]
    exact .atEnd remains.eq_length.ge
  | case2 before c rest ih =>
    subst before_eq
    have found := segmentAt_eq remains
    have inside := remains.lt
    rw [← firstSegment_append (text.take i).reverse c rest] at remains
    rw [segments]
    exact .turn inside found (ih remains.behind (by rw [remains.take_eq, List.reverse_append]))

/-- What comes of a text when every turn ends without a fault is what the text is cut into, and nothing else. -/
theorem scans_iff {segs : List Segment} : Scans text 0 segs ↔ segs = segments [] text := by
  have remains : Remains text 0 text := .of_le (Nat.zero_le _)
  constructor
  · intro scans
    exact scans.eq_segments remains
  · rintro rfl
    exact scans_segments remains

/-- A position that a turn from another one may go on from. -/
structure Advances (text : List Char) (i last : ℕ) : Prop where
  after : i < last
  inside : last ≤ text.length

theorem Remains.advances (remains : Remains text i (part ++ rest)) (some_part : part ≠ []) :
    Advances text i (i + part.length) := by
  have positive := List.length_pos_iff.mpr some_part
  exact ⟨by omega, remains.behind.inside⟩

theorem Remains.of_getElem? (found : text[i]? = some c) : ∃ rest, Remains text i (c :: rest) := by
  obtain ⟨inside, rfl⟩ := List.getElem?_eq_some_iff.mp found
  exact ⟨text.drop (i + 1), inside.le, List.drop_eq_getElem_cons inside⟩

theorem segmentAt_advances (inside : i < text.length) :
    ∃ seg next, segmentAt text i = .ok (seg, next) ∧ Advances text i next := by
  obtain ⟨rest, remains⟩ := Remains.of_getElem? (List.getElem?_eq_getElem inside)
  refine ⟨_, _, segmentAt_eq remains, ?_⟩
  rw [← firstSegment_append (text.take i).reverse] at remains
  exact remains.advances (text_ne_nil _ _ _)

theorem quotedRun_advances {mark : Char} (opens : text[i]? = some mark) (escapes : Bool) :
    ∃ past run last, quotedEnd text mark escapes (i + 1) = .ok past ∧ past ≤ text.length + 1 ∧
      quotedRun text i mark escapes = .ok (run, last) ∧ Advances text i last := by
  obtain ⟨rest, remains⟩ := Remains.of_getElem? opens
  obtain ⟨past, ends, bound, -⟩ := quotedEnd_eq mark escapes remains.next
  refine ⟨past, _, _, ends, bound, quotedRun_eq mark escapes remains, ?_⟩
  rw [← splitQuoted_append mark escapes rest, ← List.cons_append] at remains
  exact remains.advances (List.cons_ne_nil _ _)

theorem blockComment_advances (slash : text[i]? = some '/') (star : text[i + 1]? = some '*') :
    ∃ run last, blockComment text i = .ok (run, last) ∧ Advances text i last := by
  obtain ⟨rest, remains⟩ := Remains.of_getElem? slash
  rw [remains.next_eq] at star
  obtain ⟨inner, rfl⟩ := List.head?_eq_some_iff.mp star
  refine ⟨_, _, blockComment_eq remains, ?_⟩
  rw [← splitComment_append 0 inner, ← List.cons_append, ← List.cons_append] at remains
  exact remains.advances (List.cons_ne_nil _ _)

theorem bodyEnd?_advances (opens : text[i]? = some '$') :
    ∃ found, bodyEnd? text i = .ok found ∧ ∀ last ∈ found, Advances text i last := by
  obtain ⟨rest, remains⟩ := Remains.of_getElem? opens
  refine ⟨_, bodyEnd?_eq remains, ?_⟩
  intro last found
  obtain ⟨split, cut, rfl⟩ := Option.mem_map.mp found
  rw [← splitBody?_append cut, ← List.cons_append] at remains
  have advances := remains.advances (List.cons_ne_nil _ _)
  rwa [List.length_cons, Nat.add_comm split.1.length, ← Nat.add_assoc] at advances

/-- Scanning ends, and without a fault, whatever the text. A turn at any of its positions goes on at a later one
    that is not behind the text, and so ends every quoted run, block comment and dollar body, wherever one opens.
    What the turns find is the only list of segments that comes of the text, and casting casts these. -/
theorem scan_ends_within_the_text (sql : String) :
    (∀ i < sql.toList.length,
      ∃ seg next, segmentAt sql.toList i = .ok (seg, next) ∧ Advances sql.toList i next) ∧
    (∀ i mark escapes, sql.toList[i]? = some mark →
      ∃ past run last, quotedEnd sql.toList mark escapes (i + 1) = .ok past ∧ past ≤ sql.toList.length + 1 ∧
        quotedRun sql.toList i mark escapes = .ok (run, last) ∧ Advances sql.toList i last) ∧
    (∀ i, sql.toList[i]? = some '/' → sql.toList[i + 1]? = some '*' →
      ∃ run last, blockComment sql.toList i = .ok (run, last) ∧ Advances sql.toList i last) ∧
    (∀ i, sql.toList[i]? = some '$' →
      ∃ found, bodyEnd? sql.toList i = .ok found ∧ ∀ last ∈ found, Advances sql.toList i last) ∧
    ∃ segs, (∀ other, Scans sql.toList 0 other ↔ other = segs) ∧
      ∀ types, castReferences sql types = String.ofList (segs.flatMap (Segment.cast types)) :=
  ⟨fun _ inside => segmentAt_advances inside,
    fun _ _ escapes opens => quotedRun_advances opens escapes,
    fun _ slash star => blockComment_advances slash star,
    fun _ opens => bodyEnd?_advances opens,
    segments [] sql.toList, fun _ => scans_iff, fun _ => rfl⟩

theorem scan_ends_within_the_text_tails :
    ("E'\\".toList[1]? = some literalMark ∧ quotedEnd "E'\\".toList literalMark true 2 = .ok 4 ∧
      ∃ run last, quotedRun "E'\\".toList 1 literalMark true = .ok (run, last) ∧ Advances "E'\\".toList 1 last) ∧
    ("/*/".toList[0]? = some '/' ∧ "/*/".toList[1]? = some '*' ∧
      ∃ run last, blockComment "/*/".toList 0 = .ok (run, last) ∧ Advances "/*/".toList 0 last) ∧
    ("a $b$".toList[2]? = some '$' ∧
      ∃ found, bodyEnd? "a $b$".toList 2 = .ok found ∧ ∀ last ∈ found, Advances "a $b$".toList 2 last) := by
  have skips : quotedEnd "E'\\".toList literalMark true 2 = .ok 4 := by cbv
  obtain ⟨-, run, last, -, -, copied, advances⟩ := (scan_ends_within_the_text "E'\\").2.1 1 literalMark true rfl
  exact ⟨⟨rfl, skips, run, last, copied, advances⟩,
    ⟨rfl, rfl, (scan_ends_within_the_text "/*/").2.2.1 0 rfl rfl⟩,
    ⟨rfl, (scan_ends_within_the_text "a $b$").2.2.2.1 2 rfl⟩⟩

example : segmentAt ['E', literalMark, '\\'] 1 = .ok (.literal [literalMark, '\\'], 3) := by cbv

example : segmentAt ['/', '*', '/'] 0 = .ok (.blockComment ['/', '*', '/'], 3) := by cbv

example : commentEnd ['*', '/'] 0 0 = .error .noneOpen := by cbv

end
end TableGateway.Sql.Scan
