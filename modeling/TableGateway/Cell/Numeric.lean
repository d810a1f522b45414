import TableGateway.Cell.Binary
import TableGateway.Json.Basic
import TableGateway.Number.Decimal
import TableGateway.Text.Integer

/-!
# Numerics

A numeric is a list of digits to the base 10000, the power of the first one, a sign, and the number of
decimal places that are shown. `numericText?` writes it in full; `numberOrText` makes a number of a text that
is one.
-/
namespace TableGateway.Cell

/-- The parts of a numeric. -/
structure Numeric where
  negative : Bool
  /-- The power of 10000 that the first digit counts. -/
  weight : Int
  /-- The number of decimal places. -/
  scale : Nat
  digits : List Int
  deriving DecidableEq, Repr

/-- What the bytes of a numeric stand for. -/
inductive NumericValue where
  | finite (value : Numeric)
  | special (text : String)
  deriving DecidableEq, Repr

/-- The words of two bytes each. -/
def wordsOf : List UInt8 → List Nat
  | high :: low :: rest => natural [high, low] :: wordsOf rest
  | _ => []

/-- The value of the bytes: the count of digits, the weight, the sign, the scale, and the digits. -/
def numeric? (bytes : List UInt8) : Option NumericValue :=
  match wordsOf bytes with
  | count :: weight :: sign :: scale :: words =>
    if Nat.pow 2 15 ≤ count then none
    else if sign = 0xC000 then some (.special "NaN")
    else if sign = 0xD000 then some (.special "Infinity")
    else if sign = 0xF000 then some (.special "-Infinity")
    else if words.length < count then none
    else some (.finite ⟨sign = 0x4000, signed 16 weight, scale, (words.take count).map (signed 16)⟩)
  | _ => none

namespace Numeric

/-- The digit at a position; there are zeros around those that are given. -/
def digitAt (n : Numeric) (position : Int) : Int :=
  if position < 0 then 0 else n.digits.getD position.toNat 0

/-- A digit to the base 10000 in four characters. -/
def groupChars (digit : Int) : List Char :=
  if digit < 0 then '-' :: (paddedText 3 digit.natAbs).toList else (paddedText 4 digit.natAbs).toList

/-- The digits before the point, without needless zeros. -/
def wholeChars (n : Numeric) : List Char :=
  if n.weight < 0 then ['0']
  else
    (intText (n.digitAt 0)).toList ++
      (List.range n.weight.toNat).flatMap fun i => groupChars (n.digitAt (i + 1 : Nat))

/-- The digits behind the point, as many as the scale says. -/
def fractionChars (n : Numeric) : List Char :=
  let groups := (List.range ((n.scale + 3) / 4)).flatMap fun (i : Nat) =>
    groupChars (n.digitAt (n.weight + 1 + (i : Int)))
  groups.take n.scale

def text (n : Numeric) : String :=
  String.ofList
    ((if n.negative then ['-'] else []) ++ n.wholeChars ++ if n.scale = 0 then [] else '.' :: n.fractionChars)

end Numeric

/-- The text of the bytes of a numeric. -/
def numericText? (bytes : List UInt8) : Option String :=
  (numeric? bytes).map fun
    | .finite n => n.text
    | .special text => text

/-- The decimal of digits with a point among them. -/
def unsignedDecimal? (negative : Bool) (chars : List Char) : Option Decimal :=
  let whole := chars.takeWhile Char.isDigit
  match whole, chars.dropWhile Char.isDigit with
  | [], _ => none
  | _, [] => some ⟨negative, whole, [], 0⟩
  | _, '.' :: fraction => if fraction.all Char.isDigit then some ⟨negative, whole, fraction, 0⟩ else none
  | _, _ => none

/-- The decimal of a text. -/
def decimal? (text : String) : Option Decimal :=
  match text.toList with
  | '-' :: chars => unsignedDecimal? true chars
  | chars => unsignedDecimal? false chars

/-- An integer where the text is one of 64 bits, else the nearest binary number where there is a finite one,
    else the text. -/
def numberOrText (text : String) : Json :=
  match readInt64? text with
  | some n => .ofInt n
  | none =>
    match (decimal? text).bind Decimal.nearest? with
    | some x => .number (.float x)
    | none => .string text

end TableGateway.Cell
