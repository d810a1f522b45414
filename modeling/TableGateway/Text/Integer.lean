/-!
# Decimal integers

Integers are read from ASCII digits after an optional sign, and must fit the range asked for. A
natural number admits the sign `+` only.
-/
namespace TableGateway

/-- Why a text is no integer of the range. -/
inductive IntegerError where
  | empty
  | invalidDigit
  | tooLarge
  deriving DecidableEq, Repr

def IntegerError.message : IntegerError → String
  | .empty => "cannot parse integer from empty string"
  | .invalidDigit => "invalid digit found in string"
  | .tooLarge => "number too large to fit in target type"

/-- The value of an ASCII digit. -/
def digitValue (c : Char) : Nat :=
  c.toNat - '0'.toNat

/-- Appends digits to `value`; every value on the way must be below `bound`. -/
def readDigits (bound : Nat) : (value : Nat) → List Char → Except IntegerError Nat
  | value, [] => .ok value
  | value, c :: rest =>
    if c.isDigit then
      let next := 10 * value + digitValue c
      if next < bound then readDigits bound next rest else .error .tooLarge
    else .error .invalidDigit

/-- Reads digits, at least one of them. -/
def readUnsigned (bound : Nat) : List Char → Except IntegerError Nat
  | [] => .error .invalidDigit
  | digits => readDigits bound 0 digits

/-- Reads a natural number below `bound`. -/
def readNatural (bound : Nat) (s : String) : Except IntegerError Nat :=
  match s.toList with
  | [] => .error .empty
  | '+' :: digits => readUnsigned bound digits
  | digits => readUnsigned bound digits

/-- Reads an integer of the signed range of the given number of bits. -/
def readSigned (bits : Nat) (s : String) : Except IntegerError Int :=
  match s.toList with
  | [] => .error .empty
  | '+' :: digits => (readUnsigned (Nat.pow 2 (bits - 1)) digits).map Int.ofNat
  | '-' :: digits => (readUnsigned (Nat.pow 2 (bits - 1) + 1) digits).map fun n => -(n : Int)
  | digits => (readUnsigned (Nat.pow 2 (bits - 1)) digits).map Int.ofNat

/-- Reads a natural number below `bound`, if the text is one. -/
def readNatural? (bound : Nat) (s : String) : Option Nat :=
  (readNatural bound s).toOption

/-- Reads a signed integer of 64 bits, if the text is one. -/
def readInt64? (s : String) : Option Int :=
  (readSigned 64 s).toOption

def intText : Int → String
  | .ofNat n => n.repr
  | .negSucc n => "-" ++ (n + 1).repr

/-- A natural number in at least `width` digits. -/
def paddedText (width n : Nat) : String :=
  let digits := Nat.toDigits 10 n
  String.ofList (List.replicate (width - digits.length) '0' ++ digits)

theorem readDigits_lt {bound value : Nat} {digits : List Char} {n : Nat} (below : value < bound)
    (reads : readDigits bound value digits = .ok n) : n < bound := by
  induction digits generalizing value with
  | nil => simp only [readDigits, Except.ok.injEq] at reads; omega
  | cons c rest ih =>
    unfold readDigits at reads
    split at reads
    · dsimp only at reads
      split at reads
      · rename_i next_below
        exact ih next_below reads
      · simp at reads
    · simp at reads

end TableGateway
