/-!
# Binary floating point

The finite numbers of the 64-bit binary format. A magnitude is the word without its sign bit, so
magnitudes are ordered as the numbers they stand for; `significand` and `exponent` say which number
that is. `roundRatio` finds the magnitude nearest to a fraction, and products and quotients are
rounded from their exact fractions.
-/
namespace TableGateway

/-- A finite number of the format: a sign and a magnitude below that of infinity. -/
structure Binary64 where
  negative : Bool
  magnitude : Nat
  finite : magnitude < 2047 * Nat.pow 2 52
  deriving DecidableEq, Repr

/-- The quotient rounded to an integer, a half to the even neighbour. -/
def roundHalfEven (num den : Nat) : Nat :=
  let quotient := num / den
  let twice := 2 * (num % den)
  if twice < den then quotient
  else if den < twice then quotient + 1
  else quotient + quotient % 2

/-- The integer part of the binary logarithm of a positive fraction. -/
def floorLog2 (num den : Nat) : Int :=
  let guess : Int := (num.log2 : Int) - den.log2
  let reached := if 0 ≤ guess then den * Nat.pow 2 guess.toNat ≤ num else den ≤ num * Nat.pow 2 (-guess).toNat
  if reached then guess else guess - 1

namespace Binary64

/-- The integer factor of a magnitude. -/
def significand (magnitude : Nat) : Nat :=
  if magnitude / Nat.pow 2 52 = 0 then magnitude else Nat.pow 2 52 + magnitude % Nat.pow 2 52

/-- The power of two of a magnitude. -/
def exponent (magnitude : Nat) : Int :=
  if magnitude / Nat.pow 2 52 = 0 then -1074 else (magnitude / Nat.pow 2 52 : Nat) - 1075

/-- A magnitude as a fraction. -/
def ratio (magnitude : Nat) : Nat × Nat :=
  let q := exponent magnitude
  if 0 ≤ q then (significand magnitude * Nat.pow 2 q.toNat, 1) else (significand magnitude, Nat.pow 2 (-q).toNat)

/-- The magnitude nearest to a fraction, a tie to the even one; past the finite ones when it is too
    large. -/
def roundRatio (num den : Nat) : Nat :=
  if num = 0 then 0
  else
    let q := max (floorLog2 num den - 52) (-1074)
    let steps :=
      if 0 ≤ q then roundHalfEven num (den * Nat.pow 2 q.toNat) else roundHalfEven (num * Nat.pow 2 (-q).toNat) den
    (q + 1074).toNat * Nat.pow 2 52 + steps

/-- The number with a sign and a magnitude, unless that is no finite one. -/
def ofMagnitude? (negative : Bool) (magnitude : Nat) : Option Binary64 :=
  if finite : magnitude < 2047 * Nat.pow 2 52 then some ⟨negative, magnitude, finite⟩ else none

/-- The number nearest to a fraction. -/
def ofRatio? (negative : Bool) (num den : Nat) : Option Binary64 :=
  ofMagnitude? negative (roundRatio num den)

/-- The number nearest to a decimal `digits * 10 ^ power`. -/
def ofDecimal? (negative : Bool) (digits : Nat) (power : Int) : Option Binary64 :=
  if 0 ≤ power then ofRatio? negative (digits * Nat.pow 10 power.toNat) 1
  else ofRatio? negative digits (Nat.pow 10 (-power).toNat)

/-- The number of a word, unless it is an infinity or no number. -/
def ofWord? (word : Nat) : Option Binary64 :=
  ofMagnitude? (word / Nat.pow 2 63 % 2 = 1) (word % Nat.pow 2 63)

/-- The number of a word of the 32-bit format, unless it is an infinity or no number. -/
def ofWord32? (word : Nat) : Option Binary64 :=
  let negative := word / Nat.pow 2 31 % 2 = 1
  let biased := word / Nat.pow 2 23 % Nat.pow 2 8
  let fraction := word % Nat.pow 2 23
  if biased = 255 then none
  else if biased = 0 then ofRatio? negative fraction (Nat.pow 2 149)
  else ofRatio? negative ((Nat.pow 2 23 + fraction) * Nat.pow 2 biased) (Nat.pow 2 150)

/-- The magnitude of a power of ten. -/
def powerOfTen (n : Nat) : Nat :=
  roundRatio (Nat.pow 10 n) 1

/-- The rounded product of two magnitudes. -/
def times (x y : Nat) : Nat :=
  roundRatio ((ratio x).1 * (ratio y).1) ((ratio x).2 * (ratio y).2)

/-- The rounded quotient of two magnitudes, of which the second is not zero. -/
def dividedBy (x y : Nat) : Nat :=
  roundRatio ((ratio x).1 * (ratio y).2) ((ratio x).2 * (ratio y).1)

end Binary64
end TableGateway
