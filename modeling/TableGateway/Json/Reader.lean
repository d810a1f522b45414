import TableGateway.Json.Basic
import TableGateway.Number.Decimal

/-!
# Reading JSON

A text is read token by token (`nextToken`), and a stack holds the arrays and objects that are open
(`build`). At most 127 of them may be open at a time. `readFirst` reads the value that a text starts with
and leaves the rest; `read?` admits blanks only behind it.
-/
namespace TableGateway
namespace Json

/-- A token: a value without parts, or a mark of an array or object. -/
inductive Token where
  | scalar (value : Json)
  | openArray
  | closeArray
  | openObject
  | closeObject
  | comma
  | colon
  deriving Repr

/-- Text that is shorter than `text`. -/
abbrev Shorter (text : List Char) := { rest : List Char // rest.length < text.length }

/-- The text behind the first character. -/
def Shorter.tail (c : Char) (rest : List Char) : Shorter (c :: rest) :=
  ⟨rest, Nat.lt_succ_self _⟩

/-- Blanks of a document. -/
def isSpace (c : Char) : Bool :=
  c = ' ' || c = '\n' || c = '\t' || c = '\r'

/-- What is left of a text, where blanks stand before it. -/
def Shorter.behindSpace (text : List Char) (left : Shorter (text.dropWhile isSpace)) : Shorter text :=
  ⟨left.1, Nat.lt_of_lt_of_le left.2 (List.dropWhile_sublist _).length_le⟩

/-- The value of a hexadecimal digit. -/
def hexValue? (c : Char) : Option Nat :=
  if '0' ≤ c ∧ c ≤ '9' then some (c.toNat - 0x30)
  else if 'A' ≤ c ∧ c ≤ 'F' then some (c.toNat - 0x37)
  else if 'a' ≤ c ∧ c ≤ 'f' then some (c.toNat - 0x57)
  else none

/-- The number that four hexadecimal digits write. -/
def hexWord? (a b c d : Char) : Option Nat := do
  let a ← hexValue? a
  let b ← hexValue? b
  let c ← hexValue? c
  let d ← hexValue? d
  return ((a * 16 + b) * 16 + c) * 16 + d

/-- Reads an escape behind its backslash. Halves of a surrogate pair count only together. -/
def escape? : (text : List Char) → Option (Char × Shorter text)
  | '\x22' :: rest => some ('\x22', Shorter.tail _ rest)
  | '\\' :: rest => some ('\\', Shorter.tail _ rest)
  | '/' :: rest => some ('/', Shorter.tail _ rest)
  | 'b' :: rest => some ('\x08', Shorter.tail _ rest)
  | 'f' :: rest => some ('\x0c', Shorter.tail _ rest)
  | 'n' :: rest => some ('\n', Shorter.tail _ rest)
  | 'r' :: rest => some ('\r', Shorter.tail _ rest)
  | 't' :: rest => some ('\t', Shorter.tail _ rest)
  | 'u' :: a :: b :: c :: d :: rest =>
    match hexWord? a b c d with
    | none => none
    | some high =>
      if high < 0xD800 ∨ 0xE000 ≤ high then some (Char.ofNat high, ⟨rest, by simp; omega⟩)
      else if 0xDC00 ≤ high then none
      else
        match rest with
        | '\\' :: 'u' :: e :: f :: g :: h :: after =>
          match hexWord? e f g h with
          | none => none
          | some low =>
            if 0xDC00 ≤ low ∧ low < 0xE000 then
              some (Char.ofNat (0x10000 + (high - 0xD800) * 0x400 + (low - 0xDC00)),
                ⟨after, by simp; omega⟩)
            else none
        | _ => none
  | _ => none

/-- Reads a string behind its opening quote; `before` holds its characters so far, backwards, and what
    is left is shorter than `bound`. -/
def stringBody (bound : Nat) (before text : List Char) (fits : text.length ≤ bound) :
    Option (String × { rest : List Char // rest.length < bound }) :=
  match text with
  | [] => none
  | c :: rest =>
    have smaller : rest.length < bound := by simp only [List.length_cons] at fits; omega
    if c = '\x22' then some (String.ofList before.reverse, ⟨rest, smaller⟩)
    else if c = '\\' then
      match escape? rest with
      | none => none
      | some (d, ⟨after, shorter⟩) => stringBody bound (d :: before) after (by omega)
    else if c.toNat < 0x20 then none
    else stringBody bound (c :: before) rest (Nat.le_of_lt smaller)
termination_by text.length
decreasing_by
  · simp only [List.length_cons]
    omega
  · simp

/-- The digits that a text starts with, and the rest. -/
def digitRun (text : List Char) : List Char × List Char :=
  (text.takeWhile Char.isDigit, text.dropWhile Char.isDigit)

theorem length_digitRun (text : List Char) :
    (digitRun text).1.length + (digitRun text).2.length = text.length := by
  simp only [digitRun, ← List.length_append, List.takeWhile_append_dropWhile]

/-- Reads a fraction, if the text starts with a point: its digits, at least one, and the rest. -/
def fraction? (text : List Char) : Option (List Char × { rest : List Char // rest.length ≤ text.length }) :=
  match text with
  | '.' :: after =>
    if (digitRun after).1 = [] then none
    else some ((digitRun after).1, ⟨(digitRun after).2, by have := length_digitRun after; simp; omega⟩)
  | other => some ([], ⟨other, Nat.le_refl _⟩)

theorem length_behindSign_le (c : Char) (after : List Char) :
    (digitRun (if after.head? = some '-' ∨ after.head? = some '+' then after.drop 1 else after)).2.length ≤
      (c :: after).length := by
  have digits (text : List Char) : (digitRun text).2.length ≤ text.length := by
    have sum := length_digitRun text
    omega
  refine Nat.le_trans (digits _) ?_
  split
  · simp only [List.length_drop, List.length_cons]
    omega
  · simp

/-- Reads an exponent, if the text starts with its mark: its sign, its digits, and the rest. -/
def exponent? (text : List Char) :
    Option (Option (Bool × List Char) × { rest : List Char // rest.length ≤ text.length }) :=
  match text with
  | c :: after =>
    if c = 'e' ∨ c = 'E' then
      let negative := after.head? = some '-'
      let digitsFrom := if negative ∨ after.head? = some '+' then after.drop 1 else after
      if (digitRun digitsFrom).1 = [] then none
      else some (some (negative, (digitRun digitsFrom).1), ⟨(digitRun digitsFrom).2,
        length_behindSign_le c after⟩)
    else some (none, ⟨c :: after, Nat.le_refl _⟩)
  | [] => some (none, ⟨[], Nat.le_refl _⟩)

/-- The number of an integer that is written with its digits only. -/
def integerNumber? (negative : Bool) (digits : List Char) : Option Number :=
  let n := digitsNumber digits
  if !negative && n < UInt64.size then some (.integer n)
  else if negative && n ≠ 0 && n ≤ Nat.pow 2 63 then some (.integer (-(n : Int)))
  else (Decimal.scaled? ⟨negative, digits, [], 0⟩).map .float

/-- The greatest exponent that is taken as it is. -/
def exponentLimit : Nat := Nat.pow 2 31

/-- The number of a decimal. An exponent beyond the limit means zero or, unless the digits are all
    zero, a number too large. -/
def decimalNumber? (negative : Bool) (whole fraction : List Char) : Option (Bool × List Char) → Option Number
  | none => (Decimal.scaled? ⟨negative, whole, fraction, 0⟩).map .float
  | some (down, digits) =>
    let power := digitsNumber digits
    if power < exponentLimit then
      (Decimal.scaled? ⟨negative, whole, fraction, if down then -(power : Int) else power⟩).map .float
    else if digitsNumber (whole ++ fraction) ≠ 0 ∧ !down then none
    else (Binary64.ofMagnitude? negative 0).map .float

/-- The parts of a number behind its sign: its digits, those of its fraction, and its exponent. -/
structure NumberParts where
  whole : List Char
  fraction : List Char
  exponent : Option (Bool × List Char)
  deriving DecidableEq, Repr

/-- Reads the parts of a number behind its sign: digits without a needless zero, then a fraction and an
    exponent. -/
def numberParts? (text : List Char) : Option (NumberParts × Shorter text) :=
  let digits := (digitRun text).1
  if starts : digits = [] then none
  else if digits.head? = some '0' ∧ digits.length ≠ 1 then none
  else
    have shorter : (digitRun text).2.length < text.length := by
      have sum := length_digitRun text
      have : 0 < (digitRun text).1.length := List.length_pos_iff.mpr starts
      omega
    match fraction? (digitRun text).2 with
    | none => none
    | some (fraction, ⟨afterFraction, le⟩) =>
      match exponent? afterFraction with
      | none => none
      | some (exponent, ⟨after, le'⟩) => some (⟨digits, fraction, exponent⟩, ⟨after, by omega⟩)

/-- The number of its parts. -/
def NumberParts.number? (negative : Bool) (parts : NumberParts) : Option Number :=
  if parts.fraction = [] ∧ parts.exponent = none then integerNumber? negative parts.whole
  else decimalNumber? negative parts.whole parts.fraction parts.exponent

/-- Reads a number behind its sign. -/
def number? (negative : Bool) (text : List Char) : Option (Number × Shorter text) :=
  (numberParts? text).bind fun (parts, left) => (parts.number? negative).map fun n => (n, left)

/-- The rest of a text behind a word that it starts with. -/
def behind? (word text : List Char) : Option { rest : List Char // rest.length ≤ text.length } :=
  if word.isPrefixOf text then some ⟨text.drop word.length, by simp⟩ else none

/-- Reads a token at the start of a text. -/
def tokenAt : (text : List Char) → Option (Token × Shorter text)
  | [] => none
  | c :: rest =>
    match c with
    | '[' => some (.openArray, Shorter.tail _ rest)
    | ']' => some (.closeArray, Shorter.tail _ rest)
    | '\x7b' => some (.openObject, Shorter.tail _ rest)
    | '\x7d' => some (.closeObject, Shorter.tail _ rest)
    | ',' => some (.comma, Shorter.tail _ rest)
    | ':' => some (.colon, Shorter.tail _ rest)
    | '\x22' =>
      (stringBody (rest.length + 1) [] rest (Nat.le_succ _)).map fun (s, left) => (.scalar (.string s), left)
    | 'n' =>
      (behind? "ull".toList rest).map fun left =>
        (.scalar .null, ⟨left.1, by have := left.2; simp; omega⟩)
    | 't' =>
      (behind? "rue".toList rest).map fun left =>
        (.scalar (.bool true), ⟨left.1, by have := left.2; simp; omega⟩)
    | 'f' =>
      (behind? "alse".toList rest).map fun left =>
        (.scalar (.bool false), ⟨left.1, by have := left.2; simp; omega⟩)
    | '-' =>
      (number? true rest).map fun (n, left) =>
        (.scalar (.number n), ⟨left.1, by have := left.2; simp; omega⟩)
    | _ => (number? false (c :: rest)).map fun (n, left) => (.scalar (.number n), left)

/-- Reads the next token of a text, behind blanks. -/
def nextToken (text : List Char) : Option (Token × Shorter text) :=
  (tokenAt (text.dropWhile isSpace)).map fun (token, left) => (token, left.behindSpace text)

/-- An open array with its items so far, or an open object with its members so far and the key whose
    value comes next; both backwards. -/
inductive Frame where
  | array (items : List Json)
  | object (members : List (String × Json)) (key : String)

/-- What may come next. -/
inductive Expects where
  /-- A value; the end of the array too, if it has no item yet. -/
  | value (orEnd : Bool)
  /-- A key; the end of the object too, if it has no member yet. -/
  | key (members : List (String × Json)) (orEnd : Bool)
  /-- The colon behind a key. -/
  | colon (members : List (String × Json)) (key : String)
  /-- A comma, or the end of what is open. -/
  | more

/-- Where the reading stands after a token. -/
inductive Progress where
  | finished (value : Json)
  | going (expects : Expects) (stack : List Frame)
  | refused

/-- The greatest number of arrays and objects that may be open. -/
def depthLimit : Nat := 127

/-- A value is complete: it goes into what is open. -/
def complete (value : Json) : List Frame → Progress
  | [] => .finished value
  | .array items :: stack => .going .more (.array (value :: items) :: stack)
  | .object members key :: stack => .going .more (.object ((key, value) :: members) key :: stack)

/-- One token's effect, where `outer` further arrays and objects are open around. An object that is open and
    waits for a key is not on the stack. -/
def advance (outer : Nat) (expects : Expects) (stack : List Frame) (token : Token) : Progress :=
  match expects, token, stack with
  | .value _, .scalar v, stack => complete v stack
  | .value _, .openArray, stack =>
    if outer + stack.length < depthLimit then .going (.value true) (.array [] :: stack) else .refused
  | .value _, .openObject, stack =>
    if outer + stack.length < depthLimit then .going (.key [] true) stack else .refused
  | .value true, .closeArray, .array [] :: stack => complete (.array []) stack
  | .key members _, .scalar (.string key), stack => .going (.colon members key) stack
  | .key [] true, .closeObject, stack => complete (.object []) stack
  | .colon members key, .colon, stack => .going (.value false) (.object members key :: stack)
  | .more, .comma, .array items :: stack => .going (.value false) (.array items :: stack)
  | .more, .comma, .object members _ :: stack => .going (.key members false) stack
  | .more, .closeArray, .array items :: stack => complete (.array items.reverse) stack
  | .more, .closeObject, .object members _ :: stack => complete (ofMembers members.reverse) stack
  | _, _, _ => .refused

/-- Reads on until a value is complete. -/
def build (outer : Nat) (expects : Expects) (stack : List Frame) (text : List Char) :
    Option (Json × Shorter text) :=
  match nextToken text with
  | none => none
  | some (token, ⟨rest, shorter⟩) =>
    match advance outer expects stack token with
    | .finished value => some (value, ⟨rest, shorter⟩)
    | .going expects stack =>
      (build outer expects stack rest).map fun (value, left) =>
        (value, ⟨left.1, Nat.lt_trans left.2 shorter⟩)
    | .refused => none
termination_by text.length

/-- The value that a text starts with, within so many open arrays and objects, and the text behind it. -/
def readWithin (outer : Nat) (text : List Char) : Option (Json × Shorter text) :=
  build outer (.value false) [] text

/-- The value that a text starts with, and the text behind it. -/
def readFirst (text : List Char) : Option (Json × Shorter text) :=
  readWithin 0 text

/-- The value of a whole text. -/
def read? (s : String) : Option Json :=
  match readFirst s.toList with
  | some (value, rest) => if rest.1.all isSpace then some value else none
  | none => none

end Json
end TableGateway
