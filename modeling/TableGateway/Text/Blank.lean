/-!
# Blanks

The characters of the Unicode property White_Space, and a text without them at its ends (`trimmed`).
-/
namespace TableGateway

/-- Holds for the characters of the property White_Space. -/
def isBlank (c : Char) : Bool :=
  let n := c.toNat
  (9 ≤ n && n ≤ 13) || n == 0x20 || n == 0x85 || n == 0xA0 || n == 0x1680 ||
    (0x2000 ≤ n && n ≤ 0x200A) || n == 0x2028 || n == 0x2029 || n == 0x202F || n == 0x205F || n == 0x3000

/-- The characters from the first to the last that is no blank. -/
def trimChars (text : List Char) : List Char :=
  ((text.dropWhile isBlank).reverse.dropWhile isBlank).reverse

/-- The text without the blanks at its ends. -/
def trimmed (s : String) : String :=
  String.ofList (trimChars s.toList)

/-- Holds for a text of blanks only, the empty one included. -/
def isBlankText (s : String) : Bool :=
  s.toList.all isBlank

end TableGateway
