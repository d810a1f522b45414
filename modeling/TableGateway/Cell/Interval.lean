import TableGateway.Cell.Binary
import TableGateway.Text.Integer

/-!
# Intervals

An interval has months, days and microseconds, none of which is taken into another. Its text gives all three.
-/
namespace TableGateway.Cell

/-- A span of time. -/
structure Interval where
  micros : Int64
  days : Int32
  months : Int32
  deriving DecidableEq, Repr

/-- A text without the zeros at its end. -/
def withoutEndZeros (s : String) : String :=
  String.ofList (s.toList.reverse.dropWhile (· = '0')).reverse

/-- The number without its sign. That of the least number needs the word's own sign bit. -/
def unsignedPart (n : Int64) : UInt64 :=
  n.abs.toUInt64

/-- Microseconds as seconds, with no more decimals than needed. -/
def secondsText (micros : Int64) : String :=
  let unsigned := unsignedPart micros
  let whole := (if micros < 0 then "-" else "") ++ (unsigned / 1000000).toNat.repr
  let rest := unsigned % 1000000
  if rest = 0 then whole else withoutEndZeros (whole ++ "." ++ paddedText 6 rest.toNat)

def Interval.text (i : Interval) : String :=
  "P" ++ intText i.months.toInt ++ "M" ++ intText i.days.toInt ++ "DT" ++ secondsText i.micros ++ "S"

/-- The interval of bytes; what follows them is passed over. -/
def interval? (bytes : List UInt8) : Option Interval := do
  let (micros, bytes) ← takeSigned? 8 bytes
  let (days, bytes) ← takeSigned? 4 bytes
  let (months, _) ← takeSigned? 4 bytes
  return ⟨.ofInt micros, .ofInt days, .ofInt months⟩

end TableGateway.Cell
