/-!
# UTF-8

Bytes decode into characters and malformed pieces (`utf8Pieces`). A malformed piece is the longest start
of a well-formed sequence that its bytes are, so the next piece begins at the first byte that could
not go on. Reading strictly refuses such pieces (`utf8Text?`), reading loosely puts U+FFFD for each
(`utf8Lossy`).
-/
namespace TableGateway

/-- A decoded piece: a character, or bytes that are none. -/
inductive Utf8Piece where
  | scalar (c : Char)
  | malformed (length : Nat)
  | truncated (length : Nat)
  deriving DecidableEq, Repr

/-- What a first byte promises: how many bytes follow, the range of the second, and its own bits. -/
def utf8Lead (byte : Nat) : Option (Nat × Nat × Nat × Nat) :=
  if byte < 0x80 then some (0, 0, 0, byte)
  else if 0xC2 ≤ byte ∧ byte ≤ 0xDF then some (1, 0x80, 0xBF, byte % 32)
  else if byte = 0xE0 then some (2, 0xA0, 0xBF, byte % 16)
  else if byte = 0xED then some (2, 0x80, 0x9F, byte % 16)
  else if 0xE1 ≤ byte ∧ byte ≤ 0xEF then some (2, 0x80, 0xBF, byte % 16)
  else if byte = 0xF0 then some (3, 0x90, 0xBF, byte % 8)
  else if 0xF1 ≤ byte ∧ byte ≤ 0xF3 then some (3, 0x80, 0xBF, byte % 8)
  else if byte = 0xF4 then some (3, 0x80, 0x8F, byte % 8)
  else none

/-- Reads the bytes that follow a first byte; `taken` counts the bytes of the piece so far. -/
def utf8Follow : (count low high value taken : Nat) → List UInt8 → Utf8Piece × List UInt8
  | 0, _, _, value, _, rest => (.scalar (Char.ofNat value), rest)
  | _ + 1, _, _, _, taken, [] => (.truncated taken, [])
  | count + 1, low, high, value, taken, b :: rest =>
    if low ≤ b.toNat ∧ b.toNat ≤ high then
      utf8Follow count 0x80 0xBF (value * 64 + b.toNat % 64) (taken + 1) rest
    else (.malformed taken, b :: rest)

theorem length_utf8Follow_le (count low high value taken : Nat) (bytes : List UInt8) :
    (utf8Follow count low high value taken bytes).2.length ≤ bytes.length := by
  induction count generalizing low high value taken bytes with
  | zero => simp [utf8Follow]
  | succ count ih =>
    cases bytes with
    | nil => simp [utf8Follow]
    | cons b rest =>
      unfold utf8Follow
      split
      · exact Nat.le_succ_of_le (ih ..)
      · simp

/-- The pieces of a list of bytes, in order. -/
def utf8Pieces : List UInt8 → List Utf8Piece
  | [] => []
  | b :: rest =>
    match utf8Lead b.toNat with
    | none => .malformed 1 :: utf8Pieces rest
    | some (count, low, high, value) =>
      let next := utf8Follow count low high value 1 rest
      next.1 :: utf8Pieces next.2
termination_by bytes => bytes.length
decreasing_by
  · simp
  · have := length_utf8Follow_le count low high value 1 rest
    simp only [List.length_cons]
    omega

/-- The character of a piece, if it is one. -/
def Utf8Piece.scalar? : Utf8Piece → Option Char
  | .scalar c => some c
  | _ => none

/-- The text of well-formed bytes. -/
def utf8Text? (bytes : List UInt8) : Option String :=
  ((utf8Pieces bytes).mapM Utf8Piece.scalar?).map String.ofList

/-- The text of any bytes, with U+FFFD for each malformed piece. -/
def utf8Lossy (bytes : List UInt8) : String :=
  String.ofList ((utf8Pieces bytes).map fun piece => (Utf8Piece.scalar? piece).getD '\uFFFD')

/-- Where bytes stop being well formed: the index, and the length of the malformed piece unless the
    bytes end within it. -/
def utf8Fault (index : Nat) : List Utf8Piece → Option (Nat × Option Nat)
  | [] => none
  | .scalar c :: rest => utf8Fault (index + c.utf8Size) rest
  | .malformed length :: _ => some (index, some length)
  | .truncated _ :: _ => some (index, none)

def utf8Bytes (s : String) : List UInt8 :=
  s.toList.flatMap String.utf8EncodeChar

end TableGateway
