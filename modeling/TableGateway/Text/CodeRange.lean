/-!
# Ranges of characters

A property of characters is a list of ranges of code points, ends included.
-/
namespace TableGateway

/-- Holds when the character lies in one of the ranges. -/
def inRanges (ranges : List (Nat × Nat)) (c : Char) : Bool :=
  ranges.any fun range => range.1 ≤ c.toNat && c.toNat ≤ range.2

end TableGateway
