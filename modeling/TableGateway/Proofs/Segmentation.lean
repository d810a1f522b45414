import Mathlib
import TableGateway.Sql.Cast

/-!
# The grammar of SQL text

Which cuts of a text into segments are right, said without a scanner. A segment of many characters has an
opening and a run behind it (`Segment.Form`); the run ends by the rule of its form, and where it never does,
at the end of the text. References and single characters are all that is left (`Segment.Stands`). A text has
exactly one such cut, the one that `segments` finds (`segmentation_iff`), and casting the references of a
text replaces them in it, one by one (`castReferences_replaces`).
-/
namespace TableGateway.Sql

/-! ## Rules -/

/-- Holds when a text ends within a word. -/
def EndsInWord (before : List Char) : Prop :=
  ∃ c, before.getLast? = some c ∧ isWordChar c = true

/-- Holds when the last word of a text is the letter `e`. -/
def EndsInEscapeMark (before : List Char) : Prop :=
  ∃ p c, before = p ++ [c] ∧ (c = 'e' ∨ c = 'E') ∧ ¬ EndsInWord p

/-- What stands between the marks of a quoted run: other characters, doubled marks, and where a backslash
    escapes, any character behind one. -/
inductive QuotedBody (mark : Char) (escapes : Prop) : List Char → Prop where
  | nil : QuotedBody mark escapes []
  | plain {c : Char} {body : List Char} (other : c ≠ mark) (bare : escapes → c ≠ '\\')
      (inside : QuotedBody mark escapes body) : QuotedBody mark escapes (c :: body)
  | doubled {body : List Char} (inside : QuotedBody mark escapes body) :
      QuotedBody mark escapes (mark :: mark :: body)
  | escaped {c : Char} {body : List Char} (escape : escapes) (inside : QuotedBody mark escapes body) :
      QuotedBody mark escapes ('\\' :: c :: body)

/-- A quoted run ends with a mark that is not doubled. -/
def QuoteEnds (mark : Char) (escapes : Prop) (run rest : List Char) : Prop :=
  ∃ body, run = body ++ [mark] ∧ QuotedBody mark escapes body ∧ rest.head? ≠ some mark

/-- A line ends before its newline. -/
def LineEnds (run rest : List Char) : Prop :=
  '\n' ∉ run ∧ rest.head? = some '\n'

/-- The run of a block comment up to its end, where `inner` further comments are open. -/
inductive CommentRun : (inner : Nat) → List Char → Prop where
  | close : CommentRun 0 ['*', '/']
  | leave {inner : Nat} {run : List Char} (after : CommentRun inner run) :
      CommentRun (inner + 1) ('*' :: '/' :: run)
  | enter {inner : Nat} {run : List Char} (after : CommentRun (inner + 1) run) :
      CommentRun inner ('/' :: '*' :: run)
  | plain {inner : Nat} {c : Char} {run : List Char} (noStart : ¬ ['/', '*'] <+: c :: run)
      (noEnd : ¬ ['*', '/'] <+: c :: run) (after : CommentRun inner run) : CommentRun inner (c :: run)

/-- A dollar body ends with the first occurrence of its delimiter. -/
def DelimiterEnds (delimiter run : List Char) : Prop :=
  delimiter <:+ run ∧ ∀ p, p <+: run → delimiter <:+ p → p = run

/-- The tag of a dollar body: nothing, or a word that starts with no digit. -/
def Tag (tag : List Char) : Prop :=
  tag = [] ∨ ∃ c rest, tag = c :: rest ∧ (isAlphabetic c = true ∨ c = '_') ∧
    ∀ d ∈ rest, isAlphanumeric d = true ∨ d = '_'

/-- The delimiter of a dollar body. -/
def delimiter (tag : List Char) : List Char :=
  '$' :: tag ++ ['$']

/-! ## Segments where they stand -/

/-- The segments of many characters: the run behind the opening, and the rule by which the run ends before
    the rest of a text. -/
inductive Segment.Form (before : List Char) :
    Segment → (run : List Char) → (ends : List Char → List Char → Prop) → Prop where
  | literal (run : List Char) :
      Form before (.literal (literalMark :: run)) run (QuoteEnds literalMark (EndsInEscapeMark before))
  | identifier (run : List Char) :
      Form before (.identifier (identifierMark :: run)) run (QuoteEnds identifierMark False)
  | lineComment (run : List Char) : Form before (.lineComment ('-' :: '-' :: run)) run LineEnds
  | blockComment (run : List Char) :
      Form before (.blockComment ('/' :: '*' :: run)) run fun run _ => CommentRun 0 run
  | dollarBody {tag : List Char} (apart : ¬ EndsInWord before) (valid : Tag tag) (run : List Char) :
      Form before (.dollarBody (delimiter tag ++ run)) run fun run _ => DelimiterEnds (delimiter tag) run

/-- Holds when no part of a run ends by the rule. -/
def Unended (ends : List Char → List Char → Prop) (run : List Char) : Prop :=
  ∀ p q, run = p ++ q → ¬ ends p q

/-- A run that stops where the rule ends it, and where it never does, with the text. -/
def Stops (ends : List Char → List Char → Prop) (run rest : List Char) : Prop :=
  ends run rest ∨ rest = [] ∧ Unended ends run

/-- A text that starts with a segment other than a single character. -/
inductive Opens (before : List Char) : List Char → Prop where
  | literal (rest : List Char) : Opens before (literalMark :: rest)
  | identifier (rest : List Char) : Opens before (identifierMark :: rest)
  | lineComment (rest : List Char) : Opens before ('-' :: '-' :: rest)
  | blockComment (rest : List Char) : Opens before ('/' :: '*' :: rest)
  | reference {d : Char} (apart : ¬ EndsInWord before) (digit : d.isDigit = true) (rest : List Char) :
      Opens before ('$' :: d :: rest)
  | dollarBody {tag : List Char} (apart : ¬ EndsInWord before) (valid : Tag tag) (rest : List Char) :
      Opens before (delimiter tag ++ rest)

/-- A segment that is right where it stands, between `before` and the rest of a text. -/
inductive Segment.Stands (before : List Char) : Segment → (rest : List Char) → Prop where
  | run {seg : Segment} {run rest : List Char} {ends : List Char → List Char → Prop}
      (form : Form before seg run ends) (stops : Stops ends run rest) : Stands before seg rest
  | reference {digits rest : List Char} (apart : ¬ EndsInWord before) (some_digit : digits ≠ [])
      (all_digits : ∀ d ∈ digits, d.isDigit = true) (maximal : ∀ c, rest.head? = some c → c.isDigit = false) :
      Stands before (.reference digits) rest
  | other {c : Char} {rest : List Char} (single : ¬ Opens before (c :: rest)) : Stands before (.other c) rest

/-- A segment whose run lacks its end. -/
def Segment.Unclosed (before : List Char) (seg : Segment) : Prop :=
  ∃ run ends, seg.Form before run ends ∧ Unended ends run

/-- The segments of a text behind `before`: together they are the text, and each is right where it stands. -/
def Segmentation (before text : List Char) (segs : List Segment) : Prop :=
  segs.flatMap Segment.text = text ∧ ∀ left seg right, segs = left ++ seg :: right →
    seg.Stands (before ++ left.flatMap Segment.text) (right.flatMap Segment.text)

/-- A text behind `before` that leaves a quote, a comment or a dollar body open at its end. -/
def LeavesOpen (before text : List Char) : Prop :=
  ∃ left seg, Segmentation before text (left ++ [seg]) ∧ seg.Unclosed (before ++ left.flatMap Segment.text)

/-- What takes the place of a segment: the cast, for a reference to a type that is known, and otherwise the
    segment itself. The first type is that of number 1. -/
inductive Segment.Replaced (types : List (Option String)) : Segment → List Char → Prop where
  | cast {digits : List Char} {n : Nat} {type : String} (number : Nat.ofDigitChars 10 digits 0 = n + 1)
      (known : types[n]? = some (some type)) :
      Replaced types (.reference digits) ("($".toList ++ digits ++ "::text::".toList ++ type.toList ++ [')'])
  | kept {seg : Segment} (unknown : ∀ digits n type, seg = .reference digits →
      Nat.ofDigitChars 10 digits 0 = n + 1 → types[n]? ≠ some (some type)) : Replaced types seg seg.text

/-! ## Where runs end -/

/-- A way to cut a text that finds the end of a run: what it takes ends by the rule or is all there is, and
    it takes no less and no more than a run that ends by the rule. -/
structure Cuts (split : List Char → List Char × List Char) (ends : List Char → List Char → Prop) : Prop where
  append : ∀ text, (split text).1 ++ (split text).2 = text
  ended : ∀ text, ends (split text).1 (split text).2 ∨ (split text).2 = []
  exact : ∀ run rest, ends run rest → split (run ++ rest) = (run, rest)

namespace Cuts
variable {split : List Char → List Char × List Char} {ends : List Char → List Char → Prop}

theorem of_unended (cuts : Cuts split ends) {run : List Char} (unended : Unended ends run) :
    split run = (run, []) := by
  have whole := cuts.append run
  rcases cuts.ended run with ended | none_left
  · exact absurd ended (unended _ _ whole.symm)
  · rw [none_left, List.append_nil] at whole
    exact Prod.ext whole none_left

theorem of_stops (cuts : Cuts split ends) {run rest : List Char} (stops : Stops ends run rest) :
    split (run ++ rest) = (run, rest) := by
  rcases stops with ended | ⟨rfl, unended⟩
  · exact cuts.exact run rest ended
  · rw [List.append_nil, cuts.of_unended unended]

theorem stops (cuts : Cuts split ends) (text : List Char) : Stops ends (split text).1 (split text).2 := by
  rcases cuts.ended text with ended | none_left
  · exact .inl ended
  · by_cases ended : ends (split text).1 []
    · exact .inl (none_left ▸ ended)
    · refine .inr ⟨none_left, ?_⟩
      intro p q parts early
      have whole := cuts.append text
      rw [none_left, List.append_nil] at whole
      have found := cuts.exact p q early
      rw [← parts, whole] at found
      rw [found] at ended none_left
      have last : q = [] := none_left
      exact ended (last ▸ early)

end Cuts

theorem quoteEnds_append {mark : Char} {escapes : Prop} {run rest : List Char} (taken : List Char)
    (grow : ∀ body, QuotedBody mark escapes body → QuotedBody mark escapes (taken ++ body))
    (ends : QuoteEnds mark escapes run rest) : QuoteEnds mark escapes (taken ++ run) rest := by
  obtain ⟨body, rfl, inside, single⟩ := ends
  exact ⟨taken ++ body, by simp, grow body inside, single⟩

theorem splitQuoted_ended (mark : Char) (escapes : Bool) (text : List Char) :
    QuoteEnds mark (escapes = true) (splitQuoted mark escapes text).1 (splitQuoted mark escapes text).2 ∨
      (splitQuoted mark escapes text).2 = [] := by
  fun_induction splitQuoted mark escapes text with
  | case1 => exact .inr rfl
  | case2 c => exact .inr rfl
  | case3 c d rest escape split ih =>
    simp only [Bool.and_eq_true, decide_eq_true_eq] at escape
    refine ih.imp (fun ends => ?_) id
    rw [escape.2]
    exact quoteEnds_append ['\\', d] (fun _ inside => .escaped escape.1 inside) ends
  | case4 rest _ split ih =>
    exact ih.imp (quoteEnds_append [mark, mark] fun _ inside => .doubled inside) id
  | case5 d rest single _ => exact .inl ⟨[], rfl, .nil, by simpa using single⟩
  | case6 c d rest noEscape other split ih =>
    refine ih.imp (quoteEnds_append [c] fun _ inside => .plain other ?_ inside) id
    intro escape backslash
    simp [escape, backslash] at noEscape

theorem splitQuoted_exact {mark : Char} (bare : mark ≠ '\\') (escapes : Bool) {body rest : List Char}
    (inside : QuotedBody mark (escapes = true) body) (single : rest.head? ≠ some mark) :
    splitQuoted mark escapes (body ++ mark :: rest) = (body ++ [mark], rest) := by
  induction inside with
  | nil =>
    cases rest with
    | nil => simp [splitQuoted]
    | cons d rest =>
      have other : d ≠ mark := by simpa using single
      simp [splitQuoted, bare, other]
  | @plain c body other noEscape _ ih =>
    have passed : ¬ (escapes && decide (c = '\\')) = true := by simpa using noEscape
    obtain ⟨d, more, next⟩ : ∃ d more, body ++ mark :: rest = d :: more :=
      List.exists_cons_of_ne_nil (by simp)
    rw [List.cons_append, next, splitQuoted, if_neg passed, if_neg other, ← next, ih]
    rfl
  | @doubled body _ ih => simp [splitQuoted, bare, ih]
  | @escaped c body escape _ ih =>
    rw [List.cons_append, List.cons_append, splitQuoted, if_pos (by simp [escape]), ih]
    rfl

theorem cuts_quoted {mark : Char} (bare : mark ≠ '\\') (escapes : Bool) :
    Cuts (splitQuoted mark escapes) (QuoteEnds mark (escapes = true)) where
  append := splitQuoted_append mark escapes
  ended := splitQuoted_ended mark escapes
  exact run rest ends := by
    obtain ⟨body, rfl, inside, single⟩ := ends
    simpa using splitQuoted_exact bare escapes inside single

theorem cuts_line : Cuts splitLine LineEnds where
  append := splitLine_append
  ended text := by
    have stopped := List.head?_dropWhile_not (· ≠ '\n') text
    simp only [splitLine]
    cases rest : text.dropWhile (· ≠ '\n') with
    | nil => exact .inr rfl
    | cons c more =>
      rw [rest] at stopped
      refine .inl ⟨?_, by simpa using stopped⟩
      intro newline
      simpa using List.all_eq_true.mp List.all_takeWhile _ newline
  exact run rest ends := by
    obtain ⟨inside, newline⟩ := ends
    have all : ∀ c ∈ run, decide (c ≠ '\n') = true := by
      intro c member
      simpa using fun same : c = '\n' => inside (same ▸ member)
    cases rest with
    | nil => simp at newline
    | cons c more =>
      have same : c = '\n' := by simpa using newline
      subst same
      simp only [splitLine, List.takeWhile_append_of_pos all, List.dropWhile_append_of_pos all]
      simp

theorem commentRun_ne_nil {inner : Nat} {run : List Char} (ends : CommentRun inner run) : run ≠ [] := by
  cases ends <;> simp

theorem splitComment_ended (inner : Nat) (text : List Char) :
    CommentRun inner (splitComment inner text).1 ∨ (splitComment inner text).2 = [] := by
  fun_induction splitComment inner text with
  | case1 => exact .inr rfl
  | case2 => exact .inr rfl
  | case3 inner c d rest start split ih =>
    obtain ⟨rfl, rfl⟩ := start
    exact ih.imp .enter id
  | case4 c d rest _ stop =>
    obtain ⟨rfl, rfl⟩ := stop
    exact .inl .close
  | case5 c d rest _ stop inner split ih =>
    obtain ⟨rfl, rfl⟩ := stop
    exact ih.imp .leave id
  | case6 inner c d rest noStart noStop split ih =>
    have whole : c :: split.1 ++ split.2 = c :: d :: rest := by simp [split, splitComment_append]
    have begins {a b : Char} (early : [a, b] <+: c :: split.1) : c = a ∧ d = b := by
      have early := early.trans (List.prefix_append _ split.2)
      rw [whole] at early
      simpa [eq_comm] using early
    exact ih.imp (fun after => .plain (fun start => noStart (begins start))
      (fun stop => noStop (begins stop)) after) id

theorem splitComment_exact {inner : Nat} {run : List Char} (ends : CommentRun inner run) (rest : List Char) :
    splitComment inner (run ++ rest) = (run, rest) := by
  induction ends with
  | close => simp [splitComment]
  | leave _ ih => simp [splitComment, ih]
  | enter _ ih => simp [splitComment, ih]
  | @plain inner c run noStart noStop after ih =>
    obtain ⟨d, more, rfl⟩ := List.exists_cons_of_ne_nil (commentRun_ne_nil after)
    have start : ¬ (c = '/' ∧ d = '*') := by
      rintro ⟨rfl, rfl⟩
      exact noStart ⟨more, rfl⟩
    have stop : ¬ (c = '*' ∧ d = '/') := by
      rintro ⟨rfl, rfl⟩
      exact noStop ⟨more, rfl⟩
    rw [List.cons_append] at ih
    rw [List.cons_append, List.cons_append, splitComment.eq_def]
    simp only [if_neg start, if_neg stop, ih]

theorem cuts_comment : Cuts (splitComment 0) fun run _ => CommentRun 0 run where
  append := splitComment_append 0
  ended := splitComment_ended 0
  exact _ rest ends := splitComment_exact ends rest

theorem delimiterEnds_self (mark : List Char) : DelimiterEnds mark mark :=
  ⟨List.suffix_refl mark, fun _ part ends => part.eq_of_length_le ends.length_le⟩

/-- A run that is longer by one character ends where the shorter one does, unless the delimiter is at its
    start. -/
theorem delimiterEnds_cons {mark run : List Char} {c : Char} (later : ¬ mark <+: c :: run) :
    DelimiterEnds mark (c :: run) ↔ DelimiterEnds mark run := by
  have shift (p : List Char) (part : p <+: run) : mark <:+ c :: p ↔ mark <:+ p := by
    rw [List.suffix_cons_iff]
    refine or_iff_right fun whole => later ?_
    rw [whole]
    exact (List.prefix_cons_inj c).mpr part
  constructor
  · rintro ⟨ends, first⟩
    refine ⟨(shift run List.prefix_rfl).mp ends, fun p part early => ?_⟩
    exact (List.cons.inj (first (c :: p) ((List.prefix_cons_inj c).mpr part) ((shift p part).mpr early))).2
  · rintro ⟨ends, first⟩
    refine ⟨(shift run List.prefix_rfl).mpr ends, fun p part early => ?_⟩
    rcases List.prefix_cons_iff.mp part with rfl | ⟨p, rfl, inner⟩
    · exact absurd (List.suffix_nil.mp early ▸ List.nil_prefix) later
    · rw [first p inner ((shift p inner).mp early)]

theorem splitThrough_ended (mark text : List Char) :
    DelimiterEnds mark (splitThrough mark text).1 ∨ (splitThrough mark text).2 = [] := by
  induction text with
  | nil => exact .inr rfl
  | cons c rest ih =>
    unfold splitThrough
    split
    · rename_i found
      rw [List.isPrefixOf_iff_prefix, List.prefix_iff_eq_take] at found
      simp only [← found]
      exact .inl (delimiterEnds_self mark)
    · rename_i later
      refine ih.imp (fun ends => (delimiterEnds_cons fun early => later ?_).mpr ends) id
      have whole := splitThrough_append mark rest
      rw [List.isPrefixOf_iff_prefix, ← whole, ← List.cons_append]
      exact early.trans (List.prefix_append ..)

theorem splitThrough_exact {mark run : List Char} (ends : DelimiterEnds mark run) (rest : List Char) :
    splitThrough mark (run ++ rest) = (run, rest) := by
  induction run with
  | nil =>
    have empty : mark = [] := List.suffix_nil.mp ends.1
    cases rest <;> simp [splitThrough, empty]
  | cons c run ih =>
    by_cases found : mark <+: c :: run
    · have whole : mark = c :: run := ends.2 mark found (List.suffix_refl mark)
      simp [splitThrough, whole]
    · have later : ¬ mark.isPrefixOf (c :: (run ++ rest)) = true := by
        rw [List.isPrefixOf_iff_prefix]
        intro early
        refine found (List.prefix_of_prefix_length_le early ?_ ends.1.length_le)
        exact ⟨rest, rfl⟩
      rw [List.cons_append, splitThrough, if_neg later, ih ((delimiterEnds_cons found).mp ends)]

theorem cuts_delimiter (mark : List Char) : Cuts (splitThrough mark) fun run _ => DelimiterEnds mark run where
  append := splitThrough_append mark
  ended := splitThrough_ended mark
  exact _ rest ends := splitThrough_exact ends rest

/-! ## What the text before decides -/

theorem endsInWord_iff (before : List Char) : endsInWord before.reverse = true ↔ EndsInWord before := by
  cases last : before.reverse with
  | nil => simp_all [EndsInWord, endsInWord]
  | cons c p => simp [EndsInWord, endsInWord, ← List.head?_reverse, last]

theorem endsInEscapeMark_iff (before : List Char) :
    endsInEscapeMark before.reverse = true ↔ EndsInEscapeMark before := by
  cases last : before.reverse with
  | nil => simp_all [EndsInEscapeMark, endsInEscapeMark]
  | cons c p =>
    have whole : before = p.reverse ++ [c] := by rw [← List.reverse_inj, last]; simp
    have word := endsInWord_iff p.reverse
    rw [List.reverse_reverse] at word
    simp only [endsInEscapeMark, Bool.and_eq_true, Bool.or_eq_true, decide_eq_true_eq, Bool.not_eq_true',
      ← Bool.not_eq_true, word]
    constructor
    · rintro ⟨letter, apart⟩
      exact ⟨p.reverse, c, whole, letter, apart⟩
    · rintro ⟨q, d, parts, letter, apart⟩
      obtain ⟨rfl, rfl⟩ : p.reverse = q ∧ c = d := by simpa using whole.symm.trans parts
      exact ⟨letter, apart⟩

theorem tag_iff (tag : List Char) : Tag tag ↔ isTag tag = true := by
  cases tag with
  | nil => simp [Tag, isTag]
  | cons c rest =>
    have letter (c : Char) (alphabetic : isAlphabetic c = true) : isAlphanumeric c = true := by
      simp [isAlphanumeric, alphabetic]
    simp only [Tag, isTag, List.cons.injEq, reduceCtorEq, false_or, Bool.and_eq_true, Bool.or_eq_true,
      decide_eq_true_eq, List.all_cons, List.all_eq_true]
    constructor
    · rintro ⟨_, _, ⟨rfl, rfl⟩, first, others⟩
      exact ⟨first, first.imp (letter c) id, others⟩
    · rintro ⟨first, _, others⟩
      exact ⟨c, rest, ⟨rfl, rfl⟩, first, others⟩

theorem dollar_not_mem {tag : List Char} (valid : Tag tag) : '$' ∉ tag := by
  simp only [tag_iff, isTag, Bool.and_eq_true, List.all_eq_true] at valid
  intro member
  exact absurd (valid.2 '$' member) (by decide)

/-! ## The segment that a text starts with -/

theorem splitBody?_delimiter {tag : List Char} (valid : Tag tag) (body : List Char) :
    splitBody? (tag ++ '$' :: body) =
      some (tag ++ '$' :: (splitThrough (delimiter tag) body).1, (splitThrough (delimiter tag) body).2) := by
  have inside : ∀ c ∈ tag, decide (c ≠ '$') = true := by
    intro c member
    simpa using fun same : c = '$' => dollar_not_mem valid (same ▸ member)
  have taken : (tag ++ '$' :: body).takeWhile (· ≠ '$') = tag := by
    rw [List.takeWhile_append_of_pos inside]
    simp
  have left : (tag ++ '$' :: body).dropWhile (· ≠ '$') = '$' :: body := by
    rw [List.dropWhile_append_of_pos inside]
    simp
  simp only [splitBody?, taken, left, if_pos ((tag_iff tag).mp valid), delimiter]

theorem exists_tag_of_splitBody? {text : List Char} {split : List Char × List Char}
    (found : splitBody? text = some split) : ∃ tag body, Tag tag ∧ text = tag ++ '$' :: body := by
  simp only [splitBody?] at found
  split at found
  · contradiction
  · rename_i first body left
    split at found
    · rename_i valid
      have stopped := List.head?_dropWhile_not (· ≠ '$') text
      rw [left] at stopped
      have dollar : first = '$' := by simpa using stopped
      refine ⟨text.takeWhile (· ≠ '$'), body, (tag_iff _).mpr valid, ?_⟩
      rw [dollar] at left
      rw [← left, List.takeWhile_append_dropWhile]
    · contradiction

theorem Segment.Form.stands {before : List Char} {build : List Char → Segment}
    {split : List Char → List Char × List Char} {ends : List Char → List Char → Prop}
    (form : ∀ run, Form before (build run) run ends) (cuts : Cuts split ends) (text : List Char) :
    (build (split text).1).Stands before (split text).2 :=
  .run (form _) (cuts.stops text)

theorem takeWhile_ne_nil_iff (p : Char → Bool) (text : List Char) :
    text.takeWhile p ≠ [] ↔ ∃ d rest, text = d :: rest ∧ p d = true := by
  cases text with
  | nil => simp
  | cons d rest => cases first : p d <;> simp [first]

/-- The conditions that a scanner tests, one after the other. -/
theorem opens_iff (before : List Char) (c : Char) (rest : List Char) :
    Opens before (c :: rest) ↔ c = literalMark ∨ c = identifierMark ∨ (c = '-' ∧ rest.head? = some '-') ∨
      (c = '/' ∧ rest.head? = some '*') ∨
      ((c = '$' ∧ ¬ EndsInWord before) ∧ (rest.takeWhile Char.isDigit ≠ [] ∨ splitBody? rest ≠ none)) := by
  constructor
  · generalize whole : c :: rest = text
    intro opens
    cases opens with
    | literal => exact .inl (List.cons.inj whole).1
    | identifier => exact .inr (.inl (List.cons.inj whole).1)
    | lineComment =>
      obtain ⟨rfl, rfl⟩ := List.cons.inj whole
      simp
    | blockComment =>
      obtain ⟨rfl, rfl⟩ := List.cons.inj whole
      simp
    | reference apart digit more =>
      obtain ⟨rfl, rfl⟩ := List.cons.inj whole
      exact .inr (.inr (.inr (.inr ⟨⟨rfl, apart⟩, .inl ((takeWhile_ne_nil_iff ..).mpr ⟨_, _, rfl, digit⟩)⟩)))
    | @dollarBody tag apart valid more =>
      simp only [delimiter, List.cons_append, List.append_assoc, List.nil_append] at whole
      obtain ⟨rfl, rfl⟩ := List.cons.inj whole
      exact .inr (.inr (.inr (.inr ⟨⟨rfl, apart⟩, .inr (by simp [splitBody?_delimiter valid])⟩)))
  · rintro (rfl | rfl | ⟨rfl, next⟩ | ⟨rfl, next⟩ | ⟨⟨rfl, apart⟩, digits | body⟩)
    · exact .literal rest
    · exact .identifier rest
    · obtain ⟨more, rfl⟩ := List.head?_eq_some_iff.mp next
      exact .lineComment more
    · obtain ⟨more, rfl⟩ := List.head?_eq_some_iff.mp next
      exact .blockComment more
    · obtain ⟨d, more, rfl, digit⟩ := (takeWhile_ne_nil_iff ..).mp digits
      exact .reference apart digit more
    · obtain ⟨split, found⟩ := Option.ne_none_iff_exists'.mp body
      obtain ⟨tag, more, valid, rfl⟩ := exists_tag_of_splitBody? found
      simpa [delimiter] using Opens.dollarBody apart valid more

theorem isAlphabetic_eq_false_of_isDigit {c : Char} (digit : c.isDigit = true) : isAlphabetic c = false := by
  have range := Char.isDigit_iff_toNat.mp digit
  simp only [Char.reduceToNat] at range
  have small : c.toNat < 0x80 := by omega
  have value : c.val.toNat = c.toNat := rfl
  simp only [isAlphabetic, small, if_true, Char.isAlpha, Char.isUpper, Char.isLower, ge_iff_le,
    UInt32.le_iff_toNat_le, value]
  simp
  omega

/-- A dollar body is no reference: its tag starts with no digit. -/
theorem takeWhile_isDigit_tag {tag : List Char} (valid : Tag tag) (rest : List Char) :
    (tag ++ '$' :: rest).takeWhile Char.isDigit = [] := by
  rcases valid with rfl | ⟨c, more, rfl, first, _⟩
  · simp
  · have noDigit : c.isDigit = false := by
      rcases first with letter | rfl
      · cases digit : c.isDigit with
        | false => rfl
        | true => rw [isAlphabetic_eq_false_of_isDigit digit] at letter; contradiction
      · decide
    simp [noDigit]

theorem splitLine_cons {c : Char} (inside : c ≠ '\n') (text : List Char) :
    splitLine (c :: text) = (c :: (splitLine text).1, (splitLine text).2) := by
  simp [splitLine, inside]

/-- What `firstSegment` finds is right where it stands. -/
theorem firstSegment_stands (before : List Char) (c : Char) (rest : List Char) :
    (firstSegment before.reverse c rest).1.Stands before (firstSegment before.reverse c rest).2 := by
  unfold firstSegment
  split
  · rename_i mark
    rw [mark]
    have cuts := cuts_quoted (by decide : literalMark ≠ '\\') (endsInEscapeMark before.reverse)
    rw [endsInEscapeMark_iff] at cuts
    exact Segment.Form.stands .literal cuts rest
  split
  · rename_i mark
    rw [mark]
    have cuts := cuts_quoted (by decide : identifierMark ≠ '\\') false
    rw [Bool.false_eq_true] at cuts
    exact Segment.Form.stands .identifier cuts rest
  split
  · rename_i start
    obtain ⟨rfl, next⟩ := start
    obtain ⟨more, rfl⟩ := List.head?_eq_some_iff.mp next
    rw [splitLine_cons (by decide)]
    exact Segment.Form.stands .lineComment cuts_line more
  split
  · rename_i start
    obtain ⟨rfl, next⟩ := start
    obtain ⟨more, rfl⟩ := List.head?_eq_some_iff.mp next
    exact Segment.Form.stands .blockComment cuts_comment more
  split
  · rename_i noLiteral noIdentifier noLine noComment start
    obtain ⟨rfl, apart⟩ := start
    replace apart : ¬ EndsInWord before := by rw [← endsInWord_iff, apart]; simp
    split
    · rename_i some_digit
      refine .reference apart some_digit (fun d digit => List.all_eq_true.mp List.all_takeWhile d digit) ?_
      intro d first
      have stopped := List.head?_dropWhile_not Char.isDigit rest
      rw [first] at stopped
      exact stopped
    · rename_i noDigit
      split
      · rename_i split found
        obtain ⟨tag, body, valid, rfl⟩ := exists_tag_of_splitBody? found
        rw [splitBody?_delimiter valid, Option.some.injEq] at found
        subst found
        simpa [delimiter] using Segment.Form.stands (.dollarBody apart valid) (cuts_delimiter (delimiter tag)) body
      · rename_i noBody
        refine .other ?_
        rw [opens_iff]
        simp_all
  · rename_i noLiteral noIdentifier noLine noComment inWord
    refine .other ?_
    rw [opens_iff]
    rw [← Bool.not_eq_true, endsInWord_iff] at inWord
    simp_all

theorem firstSegment_of_stands {before : List Char} {seg : Segment} {c : Char} {t rest : List Char}
    (stands : seg.Stands before rest) (text : seg.text = c :: t) :
    firstSegment before.reverse c (t ++ rest) = (seg, rest) := by
  cases stands with
  | run form stops =>
    cases form with
    | literal run =>
      obtain ⟨rfl, rfl⟩ := List.cons.inj text
      have cuts := cuts_quoted (by decide : literalMark ≠ '\\') (endsInEscapeMark before.reverse)
      rw [endsInEscapeMark_iff] at cuts
      simp [firstSegment, cuts.of_stops stops]
    | identifier run =>
      obtain ⟨rfl, rfl⟩ := List.cons.inj text
      have cuts := cuts_quoted (by decide : identifierMark ≠ '\\') false
      rw [Bool.false_eq_true] at cuts
      have other : identifierMark ≠ literalMark := by decide
      simp [firstSegment, other, cuts.of_stops stops]
    | lineComment run =>
      obtain ⟨rfl, rfl⟩ := List.cons.inj text
      simp [firstSegment, literalMark, identifierMark, splitLine_cons, cuts_line.of_stops stops]
    | blockComment run =>
      obtain ⟨rfl, rfl⟩ := List.cons.inj text
      simp [firstSegment, literalMark, identifierMark, cuts_comment.of_stops stops]
    | @dollarBody tag apart valid =>
      simp only [Segment.text, delimiter, List.cons_append, List.append_assoc, List.nil_append] at text
      obtain ⟨rfl, rfl⟩ := List.cons.inj text
      rw [← endsInWord_iff, Bool.not_eq_true] at apart
      have cut := (cuts_delimiter (delimiter tag)).of_stops stops
      simp [firstSegment, literalMark, identifierMark, apart, takeWhile_isDigit_tag valid,
        splitBody?_delimiter valid, cut]
      simp [delimiter]
  | @reference digits _ apart some_digit all_digits maximal =>
    obtain ⟨rfl, rfl⟩ := List.cons.inj text
    rw [← endsInWord_iff, Bool.not_eq_true] at apart
    have stop : rest.takeWhile Char.isDigit = [] ∧ rest.dropWhile Char.isDigit = rest := by
      cases rest with
      | nil => simp
      | cons c more => simp [maximal c rfl]
    have taken : (digits ++ rest).takeWhile Char.isDigit = digits := by
      rw [List.takeWhile_append_of_pos all_digits, stop.1, List.append_nil]
    have left : (digits ++ rest).dropWhile Char.isDigit = rest := by
      rw [List.dropWhile_append_of_pos all_digits, stop.2]
    simp [firstSegment, literalMark, identifierMark, apart, some_digit, taken, left]
  | other single =>
    obtain ⟨rfl, rfl⟩ := List.cons.inj text
    simp only [opens_iff, not_or, ← endsInWord_iff, Bool.not_eq_true] at single
    obtain ⟨noLiteral, noIdentifier, noLine, noComment, noDollar⟩ := single
    rw [List.nil_append, firstSegment, if_neg noLiteral, if_neg noIdentifier, if_neg noLine,
      if_neg noComment]
    split
    · rename_i start
      have nothing := not_or.mp fun opens => noDollar ⟨start, opens⟩
      rw [if_neg nothing.1, Classical.not_not.mp nothing.2]
    · rfl

/-! ## The only segmentation -/

theorem Segment.Stands.text_ne_nil {before rest : List Char} {seg : Segment} (stands : seg.Stands before rest) :
    seg.text ≠ [] := by
  cases stands with
  | run form => cases form <;> simp [Segment.text, delimiter]
  | reference => simp [Segment.text]
  | other => simp [Segment.text]

theorem segmentation_nil_iff {before text : List Char} : Segmentation before text [] ↔ text = [] := by
  simp [Segmentation, eq_comm]

theorem segmentation_cons_iff {before text : List Char} {seg : Segment} {segs : List Segment} :
    Segmentation before text (seg :: segs) ↔ ∃ rest, text = seg.text ++ rest ∧ seg.Stands before rest ∧
      Segmentation (before ++ seg.text) rest segs := by
  constructor
  · rintro ⟨whole, stands⟩
    refine ⟨segs.flatMap Segment.text, whole.symm, by simpa using stands [] seg segs rfl, rfl, ?_⟩
    intro left inner right parts
    simpa using stands (seg :: left) inner right (by simp [parts])
  · rintro ⟨rest, rfl, first, whole, stands⟩
    refine ⟨by simp [whole], ?_⟩
    intro left inner right parts
    cases left with
    | nil =>
      obtain ⟨rfl, rfl⟩ := List.cons.inj parts
      simpa [whole] using first
    | cons _ left =>
      obtain ⟨rfl, later⟩ := List.cons.inj parts
      simpa using stands left inner right later

theorem segmentation_segments (b text : List Char) : Segmentation b.reverse text (segments b text) := by
  fun_induction segments b text with
  | case1 b => exact segmentation_nil_iff.mpr rfl
  | case2 b c rest ih =>
    refine segmentation_cons_iff.mpr ⟨_, (firstSegment_append b c rest).symm, ?_, by simpa using ih⟩
    simpa using firstSegment_stands b.reverse c rest

theorem Segmentation.eq_segments {before text : List Char} {segs : List Segment}
    (cut : Segmentation before text segs) : segs = segments before.reverse text := by
  induction segs generalizing before text with
  | nil => rw [segmentation_nil_iff.mp cut, segments]
  | cons seg segs ih =>
    obtain ⟨rest, rfl, stands, later⟩ := segmentation_cons_iff.mp cut
    obtain ⟨c, t, first⟩ := List.exists_cons_of_ne_nil stands.text_ne_nil
    have found := firstSegment_of_stands stands first
    rw [ih later, List.reverse_append, first, List.cons_append, segments, found, first]

/-- A text has exactly one segmentation, the one that is found from left to right. -/
theorem segmentation_iff {before text : List Char} {segs : List Segment} :
    Segmentation before text segs ↔ segs = segments before.reverse text := by
  constructor
  · exact Segmentation.eq_segments
  · rintro rfl
    simpa using segmentation_segments before.reverse text

/-! ## Casting -/

theorem digitsNumber_eq (digits : List Char) : digitsNumber digits = Nat.ofDigitChars 10 digits 0 := by
  rw [Nat.ofDigitChars_eq_foldl]
  rfl

theorem typeOf?_eq_some_iff {types : List (Option String)} {digits : List Char} {type : String} :
    typeOf? types digits = some type ↔
      ∃ n, Nat.ofDigitChars 10 digits 0 = n + 1 ∧ types[n]? = some (some type) := by
  rw [typeOf?, digitsNumber_eq]
  cases Nat.ofDigitChars 10 digits 0 with
  | zero => simp
  | succ n => simp [Option.join_eq_some_iff]

theorem replaced_iff {types : List (Option String)} {seg : Segment} {part : List Char} :
    seg.Replaced types part ↔ part = seg.cast types := by
  constructor
  · intro replaced
    cases replaced with
    | cast number known => simp [Segment.cast, typeOf?_eq_some_iff.mpr ⟨_, number, known⟩]
    | kept unknown =>
      cases seg with
      | reference digits =>
        have none_known : typeOf? types digits = none := by
          rw [Option.eq_none_iff_forall_ne_some]
          intro type found
          obtain ⟨n, number, known⟩ := typeOf?_eq_some_iff.mp found
          exact unknown digits n type rfl number known
        simp [Segment.cast, none_known, Segment.text]
      | _ => rfl
  · rintro rfl
    cases seg with
    | reference digits =>
      cases found : typeOf? types digits with
      | none =>
        have kept : Segment.Replaced types (.reference digits) (Segment.reference digits).text := by
          refine .kept ?_
          rintro _ n type ⟨⟩ number known
          rw [typeOf?_eq_some_iff.mpr ⟨n, number, known⟩] at found
          contradiction
        simpa [Segment.cast, Segment.text, found] using kept
      | some type =>
        obtain ⟨n, number, known⟩ := typeOf?_eq_some_iff.mp found
        simpa [Segment.cast, found] using Segment.Replaced.cast number known
    | _ =>
      refine .kept ?_
      intro _ _ _ other
      cases other

theorem forall₂_replaced_iff {types : List (Option String)} {segs : List Segment} {parts : List (List Char)} :
    List.Forall₂ (Segment.Replaced types) segs parts ↔ parts = segs.map (Segment.cast types) := by
  induction segs generalizing parts with
  | nil => simp
  | cons seg segs ih =>
    simp only [List.forall₂_cons_left_iff, replaced_iff, ih, List.map_cons]
    constructor
    · rintro ⟨_, _, rfl, rfl, rfl⟩
      rfl
    · rintro rfl
      exact ⟨_, _, rfl, rfl, rfl⟩

/-- Casting replaces the references of a text within its only segmentation, which no type has a part in:
    every reference to a type that is known by its cast, and nothing else. -/
theorem castReferences_replaces (sql : String) :
    ∃ segs, (∀ other, Segmentation [] sql.toList other ↔ other = segs) ∧
      ∀ types, (∃ parts, List.Forall₂ (Segment.Replaced types) segs parts) ∧
        ∀ parts, List.Forall₂ (Segment.Replaced types) segs parts →
          castReferences sql types = String.ofList parts.flatten := by
  refine ⟨segments [] sql.toList, fun other => segmentation_iff, fun types => ?_⟩
  refine ⟨⟨_, forall₂_replaced_iff.mpr rfl⟩, ?_⟩
  intro parts replaced
  rw [forall₂_replaced_iff.mp replaced, castReferences, List.flatMap_def]

end TableGateway.Sql
