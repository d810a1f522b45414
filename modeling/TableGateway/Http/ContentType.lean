import TableGateway.Text.Delimited

/-!
# Content types

A content type is a type and a subtype with parameters. Documents have the subtype `json`, or one that ends in
`+json`; the part behind the last plus sign is its suffix. A value in quotes may hold anything but controls, and
a quote only in its first place, so that it is never empty.
-/
namespace TableGateway.Http

/-- Holds for the characters of the words of a content type. -/
def isTypeChar (c : Char) : Bool :=
  c.isAlphanum || c ∈ ['!', '#', '$', '%', '&', '\x27', '*', '+', '-', '.', '^', '_', '\x60', '|', '~']

/-- Holds for the characters that a quoted value may hold. -/
def isQuotedChar (c : Char) : Bool :=
  0x20 ≤ c.toNat && c.toNat ≠ 0x7f

/-- Cuts the end of a quoted value off the front, up to its closing quote. -/
def behindQuote? (text : List Char) : Option (List Char) :=
  match text.dropWhile fun c => isQuotedChar c && c ≠ '\x22' with
  | '\x22' :: rest => some rest
  | _ => none

/-- Cuts a quoted value behind its opening quote off the front, with blanks and a semicolon behind it. -/
def behindQuoted? (text : List Char) : Option (List Char) :=
  match text with
  | [] => none
  | c :: rest =>
    if isQuotedChar c then
      match (behindQuote? rest).map fun behind => behind.dropWhile (· = ' ') with
      | some [] => some []
      | some (';' :: behind) => some behind
      | _ => none
    else none

/-- Cuts a parameter off the front. A value without quotes may be empty only at the end. -/
def behindParameter? (text : List Char) : Option (List Char) :=
  match text.takeWhile isTypeChar, text.dropWhile isTypeChar with
  | _ :: _, '=' :: '\x22' :: value => behindQuoted? value
  | _ :: _, '=' :: value =>
    match value.dropWhile isTypeChar with
    | [] => some []
    | ';' :: rest => if value.takeWhile isTypeChar = [] then none else some rest
    | _ => none
  | _, _ => none

/-- Holds when a text is a list of at most so many parameters, each with blanks before it. -/
def areParameters (count : Nat) (text : List Char) : Bool :=
  match count, text.dropWhile (· = ' ') with
  | _, [] => true
  | 0, _ => false
  | count + 1, text =>
    match behindParameter? text with
    | some rest => areParameters count rest
    | none => false

/-- The part of a subtype before its suffix, and the suffix. A plus sign in the first place starts none. -/
def splitSuffix (subtype : List Char) : List Char × Option (List Char) :=
  match subtype with
  | [] => ([], none)
  | c :: rest =>
    match pieces '+' rest with
    | [] => (c :: rest, none)
    | [_] => (c :: rest, none)
    | words => (c :: ['+'].intercalate words.dropLast, words.getLast?)

/-- Holds when a subtype is that of documents. -/
def isJsonSubtype (subtype : List Char) : Bool :=
  let split := splitSuffix (subtype.map Char.toLower)
  split.1 = "json".toList || split.2 = some "json".toList

/-- Holds for the content types of documents. -/
def isJsonType (value : String) : Bool :=
  let text := value.toList
  match text.dropWhile isTypeChar with
  | '/' :: rest =>
    let subtype := rest.takeWhile isTypeChar
    (text.takeWhile isTypeChar).map Char.toLower = "application".toList && isJsonSubtype subtype &&
      match rest.dropWhile isTypeChar with
      | [] => true
      | ';' :: parameters => areParameters parameters.length parameters
      | _ => false
  | _ => false

end TableGateway.Http
