import TableGateway.Text.Delimited
import TableGateway.Text.Utf8

/-!
# Percent encoding

A byte may be written as `%` and two hexadecimal digits; a `%` without them stands for itself. The
fields of a form are separated by `&`, each a name and a value at its first `=`, with `+` for a space.
-/
namespace TableGateway

/-- The value of a hexadecimal digit, given as a byte. -/
def hexDigit? (byte : UInt8) : Option Nat :=
  let n := byte.toNat
  if 0x30 ≤ n ∧ n ≤ 0x39 then some (n - 0x30)
  else if 0x41 ≤ n ∧ n ≤ 0x46 then some (n - 0x37)
  else if 0x61 ≤ n ∧ n ≤ 0x66 then some (n - 0x57)
  else none

/-- The bytes that percent-encoded bytes stand for. -/
def percentDecode : List UInt8 → List UInt8
  | [] => []
  | 0x25 :: high :: low :: rest =>
    match hexDigit? high, hexDigit? low with
    | some h, some l => UInt8.ofNat (16 * h + l) :: percentDecode rest
    | _, _ => 0x25 :: percentDecode (high :: low :: rest)
  | b :: rest => b :: percentDecode rest

/-- The text that a percent-encoded text stands for, unless its bytes are no text. -/
def percentText? (s : String) : Option String :=
  utf8Text? (percentDecode (utf8Bytes s))

/-- The text of a name or value in a form. -/
def formText (text : List Char) : String :=
  utf8Lossy (percentDecode (utf8Bytes (String.ofList (text.map fun c => if c = '+' then ' ' else c))))

/-- The name and the value of a field of a form. -/
def formField (field : List Char) : String × String :=
  (formText (field.takeWhile (· ≠ '=')), formText ((field.dropWhile (· ≠ '=')).drop 1))

/-- The fields of a form, in order; empty fields are none. -/
def formFields (s : String) : List (String × String) :=
  ((pieces '&' s.toList).filter (· ≠ [])).map formField

end TableGateway
