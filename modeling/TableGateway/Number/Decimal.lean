import TableGateway.Number.Binary64
import TableGateway.Text.Integer

/-!
# Decimals as numbers

Two ways from a decimal text to a binary number. `scaledMagnitude?` is the quick one that documents are read
with: the leading digits that fit a word are rounded, and a power of ten is multiplied or divided in with
one more rounding. `Decimal.nearest?` rounds the exact value once.
-/
namespace TableGateway

/-- The parts of a decimal: its sign, the digits before and after the point, and its exponent. -/
structure Decimal where
  negative : Bool
  whole : List Char
  fraction : List Char
  exponent : Int
  deriving DecidableEq, Repr

/-- The number that digits write. -/
def digitsNumber (digits : List Char) : Nat :=
  digits.foldl (fun n c => 10 * n + digitValue c) 0

/-- Appends digits to a word while it fits 64 bits: the word, and the digits that are left. -/
def absorbDigits (word : Nat) : List Char → Nat × List Char
  | [] => (word, [])
  | c :: rest =>
    let next := 10 * word + digitValue c
    if next < Nat.pow 2 64 then absorbDigits next rest else (word, c :: rest)

namespace Binary64

/-- Divides a magnitude by `10 ^ n`, in steps of the greatest power of ten there is. -/
def scaleDown (magnitude n : Nat) : Nat :=
  if n ≤ 308 then dividedBy magnitude (powerOfTen n)
  else if magnitude = 0 then 0
  else scaleDown (dividedBy magnitude (powerOfTen 308)) (n - 308)
termination_by n
decreasing_by omega

/-- The magnitude of `word * 10 ^ power`, rounded at each of its steps; none when it is too large. -/
def scaledMagnitude? (word : Nat) (power : Int) : Option Nat :=
  let start := roundRatio word 1
  if power < 0 then some (scaleDown start (-power).toNat)
  else if power ≤ 308 then
    let scaled := times start (powerOfTen power.toNat)
    if scaled < 2047 * Nat.pow 2 52 then some scaled else none
  else if start = 0 then some 0
  else none

end Binary64

/-- The number of a decimal by its leading digits; none when it is too large. -/
def Decimal.scaled? (d : Decimal) : Option Binary64 :=
  let (word, wholeLeft) := absorbDigits 0 d.whole
  let (word, fractionLeft) := absorbDigits word d.fraction
  let places : Int := (d.fraction.length : Int) - fractionLeft.length
  (Binary64.scaledMagnitude? word (wholeLeft.length - places + d.exponent)).bind
    (Binary64.ofMagnitude? d.negative)

/-- The number nearest to a decimal; none when it is too large. -/
def Decimal.nearest? (d : Decimal) : Option Binary64 :=
  Binary64.ofDecimal? d.negative (digitsNumber (d.whole ++ d.fraction)) (d.exponent - d.fraction.length)

end TableGateway
