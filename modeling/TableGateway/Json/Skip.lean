import TableGateway.Json.Reader

/-!
# Values that are passed over

A value that nobody asked for is looked at only as far as is needed to find its end (`passOver`). So its numbers
may be of any size, its strings may hold halves of surrogate pairs, and it may be nested to any depth.
-/
namespace TableGateway.Json

/-- What may be open. -/
inductive Bracket where
  | array
  | object
  deriving DecidableEq, Repr

/-- The form of a token: of values without parts only strings are told apart, since keys are strings. -/
inductive Form where
  | string
  | plain
  | opens (bracket : Bracket)
  | closes (bracket : Bracket)
  | comma
  | colon
  deriving DecidableEq, Repr

/-- The text behind a string, from behind its opening quote on. -/
def behindString? : List Char → Option (List Char)
  | [] => none
  | '\x22' :: rest => some rest
  | '\\' :: 'u' :: a :: b :: c :: d :: rest =>
    if (hexWord? a b c d).isSome then behindString? rest else none
  | '\\' :: c :: rest =>
    if c ∈ ['\x22', '\\', '/', 'b', 'f', 'n', 'r', 't'] then behindString? rest else none
  | c :: rest => if c.toNat < 0x20 then none else behindString? rest

theorem length_behindString?_lt {text rest : List Char} (found : behindString? text = some rest) :
    rest.length < text.length := by
  fun_induction behindString? text with
  | case1 => simp at found
  | case2 => simp_all
  | case3 _ _ _ _ _ _ ih => have := ih found; simp only [List.length_cons]; omega
  | case4 => simp at found
  | case5 _ _ _ _ ih => have := ih found; simp only [List.length_cons]; omega
  | case6 => simp at found
  | case7 => simp at found
  | case8 _ _ _ _ _ _ ih => have := ih found; simp only [List.length_cons]; omega

/-- The form of the token at the start of a text, and the text behind it. -/
def formAt : (text : List Char) → Option (Form × Shorter text)
  | [] => none
  | c :: rest =>
    match c with
    | '[' => some (.opens .array, Shorter.tail _ rest)
    | ']' => some (.closes .array, Shorter.tail _ rest)
    | '\x7b' => some (.opens .object, Shorter.tail _ rest)
    | '\x7d' => some (.closes .object, Shorter.tail _ rest)
    | ',' => some (.comma, Shorter.tail _ rest)
    | ':' => some (.colon, Shorter.tail _ rest)
    | '\x22' =>
      match found : behindString? rest with
      | some left => some (.string, ⟨left, Nat.lt_succ_of_lt (length_behindString?_lt found)⟩)
      | none => none
    | 'n' => (behind? "ull".toList rest).map fun left => (.plain, ⟨left.1, Nat.lt_succ_of_le left.2⟩)
    | 't' => (behind? "rue".toList rest).map fun left => (.plain, ⟨left.1, Nat.lt_succ_of_le left.2⟩)
    | 'f' => (behind? "alse".toList rest).map fun left => (.plain, ⟨left.1, Nat.lt_succ_of_le left.2⟩)
    | '-' => (numberParts? rest).map fun (_, left) => (.plain, ⟨left.1, Nat.lt_succ_of_lt left.2⟩)
    | _ => (numberParts? (c :: rest)).map fun (_, left) => (.plain, left)

/-- The form of the next token of a text, behind blanks. -/
def nextForm (text : List Char) : Option (Form × Shorter text) :=
  (formAt (text.dropWhile isSpace)).map fun (form, left) => (form, left.behindSpace text)

/-- What may come next while a value is passed over. -/
inductive Awaits where
  /-- A value; the end of the array too, right behind its opening. -/
  | value (orEnd : Bool)
  /-- A key; the end of the object too, right behind its opening. -/
  | key (orEnd : Bool)
  /-- The colon behind a key. -/
  | colon
  /-- A comma, or the end of what is open. -/
  | more
  deriving DecidableEq, Repr

/-- A token's effect on what comes next and on what is open, the innermost first. -/
def pass : Awaits → Form → List Bracket → Option (Awaits × List Bracket)
  | .value _, .string, stack => some (.more, stack)
  | .value _, .plain, stack => some (.more, stack)
  | .value _, .opens .array, stack => some (.value true, .array :: stack)
  | .value _, .opens .object, stack => some (.key true, .object :: stack)
  | .value true, .closes .array, .array :: stack => some (.more, stack)
  | .key _, .string, stack => some (.colon, stack)
  | .key true, .closes .object, .object :: stack => some (.more, stack)
  | .colon, .colon, stack => some (.value false, stack)
  | .more, .comma, .array :: stack => some (.value false, .array :: stack)
  | .more, .comma, .object :: stack => some (.key false, .object :: stack)
  | .more, .closes .array, .array :: stack => some (.more, stack)
  | .more, .closes .object, .object :: stack => some (.more, stack)
  | _, _, _ => none

/-- Passes over tokens until a value is complete and nothing is open. -/
def passOn (awaits : Awaits) (stack : List Bracket) (text : List Char) : Option (Shorter text) :=
  match nextForm text with
  | none => none
  | some (form, ⟨rest, shorter⟩) =>
    match pass awaits form stack with
    | none => none
    | some (.more, []) => some ⟨rest, shorter⟩
    | some (awaits, stack) =>
      (passOn awaits stack rest).map fun left => ⟨left.1, Nat.lt_trans left.2 shorter⟩
termination_by text.length

/-- The text behind the value that a text starts with. -/
def passOver (text : List Char) : Option (Shorter text) :=
  passOn (.value false) [] text

end TableGateway.Json
