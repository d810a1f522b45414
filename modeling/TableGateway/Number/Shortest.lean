import TableGateway.Number.Binary64

/-!
# Shortest decimals

The decimal text of a number has the fewest digits that read back as it, and of those the nearest
(`shortestDecimal`). A magnitude owns the interval of fractions that round to it, ends included when it
is even. On the grid of `n` significant digits, the interval holds a point exactly when it holds one of
the two neighbours of the number.
-/
namespace TableGateway
namespace Binary64

/-- The interval of the fractions that round to a magnitude, as numerators over one denominator:
    the lower end, the number, the upper end, the denominator. -/
def interval (magnitude : Nat) : Nat × Nat × Nat × Nat :=
  let m := significand magnitude
  let q := exponent magnitude - 2
  let low := if magnitude % Nat.pow 2 52 = 0 ∧ Nat.pow 2 52 < magnitude then 4 * m - 1 else 4 * m - 2
  if 0 ≤ q then (low * Nat.pow 2 q.toNat, 4 * m * Nat.pow 2 q.toNat, (4 * m + 2) * Nat.pow 2 q.toNat, 1)
  else (low, 4 * m, 4 * m + 2, Nat.pow 2 (-q).toNat)

/-- The integer part of the decimal logarithm of a positive fraction. -/
def floorLog10 (num den : Nat) : Int :=
  let guess : Int := (Nat.toDigits 10 num).length - (Nat.toDigits 10 den).length
  let reached := if 0 ≤ guess then den * Nat.pow 10 guess.toNat ≤ num else den ≤ num * Nat.pow 10 (-guess).toNat
  if reached then guess else guess - 1

/-- The neighbour on the grid of step `10 ^ power` that rounds to the magnitude, the nearer of two. -/
def gridPoint? (magnitude : Nat) (power : Int) : Option Nat :=
  let (low, num, high, den) := interval magnitude
  let up := if power < 0 then Nat.pow 10 (-power).toNat else 1
  let step := den * (if 0 ≤ power then Nat.pow 10 power.toNat else 1)
  let below := num * up / step
  let inside := fun point =>
    if magnitude % 2 = 0 then low * up ≤ point * step && point * step ≤ high * up
    else low * up < point * step && point * step < high * up
  match inside below, inside (below + 1) with
  | true, true => some (roundHalfEven (num * up) step)
  | true, false => some below
  | false, true => some (below + 1)
  | false, false => none

/-- The first grid, from `digits` digits on, that has a point for the magnitude. -/
def firstGrid (magnitude : Nat) (log : Int) : (left digits : Nat) → Nat × Int
  | 0, _ => (0, 0)
  | left + 1, digits =>
    let power := log + 1 - digits
    match gridPoint? magnitude power with
    | some point => (point, power)
    | none => firstGrid magnitude log left (digits + 1)

/-- Takes the zeros at the end of `digits` into the power of ten. -/
def withoutZeros : (left : Nat) → Nat → Int → Nat × Int
  | 0, digits, power => (digits, power)
  | left + 1, digits, power =>
    if digits ≠ 0 ∧ digits % 10 = 0 then withoutZeros left (digits / 10) (power + 1) else (digits, power)

/-- The digits and the power of ten of the shortest decimal of a magnitude. -/
def shortestDecimal (magnitude : Nat) : Nat × Int :=
  if magnitude = 0 then (0, 0)
  else
    let (point, power) := firstGrid magnitude (floorLog10 (ratio magnitude).1 (ratio magnitude).2) 17 1
    withoutZeros 17 point power

end Binary64

/-- How a decimal is laid out: between which powers of ten it is written without an exponent. -/
structure DecimalLayout where
  leastPlain : Int
  greatestPlain : Int

/-- The layout of numbers in documents. -/
def DecimalLayout.document : DecimalLayout := ⟨-5, 15⟩

/-- `n` zeros. -/
def zeros (n : Nat) : List Char :=
  List.replicate n '0'

/-- The characters of the decimal `digits * 10 ^ power`. A whole number keeps one decimal place; an
    exponent has its sign. -/
def DecimalLayout.chars (layout : DecimalLayout) (digits : Nat) (power : Int) : List Char :=
  let ds := Nat.toDigits 10 digits
  let scientific := power + ds.length - 1
  if layout.leastPlain ≤ scientific ∧ scientific ≤ layout.greatestPlain then
    if 0 ≤ power then ds ++ zeros power.toNat ++ ['.', '0']
    else if 0 ≤ scientific then
      ds.take (scientific.toNat + 1) ++ '.' :: ds.drop (scientific.toNat + 1)
    else '0' :: '.' :: zeros (-scientific - 1).toNat ++ ds
  else
    let mantissa := if ds.length = 1 then ds else ds.take 1 ++ '.' :: ds.drop 1
    let sign := if scientific < 0 then '-' else '+'
    mantissa ++ 'e' :: sign :: Nat.toDigits 10 scientific.natAbs

/-- The text of a number in a document. -/
def Binary64.text (x : Binary64) : String :=
  let (digits, power) := shortestDecimal x.magnitude
  let chars := DecimalLayout.document.chars digits power
  String.ofList (if x.negative then '-' :: chars else chars)

end TableGateway
