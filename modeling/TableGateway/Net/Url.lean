import TableGateway.Net.Host

/-!
# URLs

A URL has a scheme and, behind two slashes, a user and a host with the number of a service on it; then a path,
a query and a fragment. Blanks and controls at its ends and line breaks and tabs within do not count. In the
schemes of the web and of files a backslash is a slash, and in those of the web any number of slashes stands
before the host. User, path and query are kept as they are written, percent encodings included, but for the dots
in a path, which are followed.
-/
namespace TableGateway

/-- The parts of a URL that say where it leads. -/
structure Url where
  username : List Char
  password : Option (List Char)
  host : UrlHost
  portNumber : Option Nat
  path : List Char
  query : List Char
  deriving DecidableEq, Repr

/-- What stands between a scheme and a host. -/
def schemeEnd : List Char := "://".toList

namespace Url

inductive Kind where
  | web
  | file
  | other
  deriving DecidableEq, Repr

def Kind.ofScheme (scheme : List Char) : Kind :=
  let name := String.ofList (scheme.map Char.toLower)
  if name ∈ ["http", "https", "ws", "wss", "ftp"] then .web
  else if name = "file" then .file
  else .other

/-- Holds for slashes, and for backslashes where they count as such. -/
def Kind.isSlash (kind : Kind) (c : Char) : Bool :=
  c = '/' || (kind ≠ .other && c = '\\')

/-- Holds for the characters that end a path. -/
def endsPath (c : Char) : Bool :=
  c = '?' || c = '#'

/-- Holds for the characters that end the part with user and host. -/
def Kind.endsAuthority (kind : Kind) (c : Char) : Bool :=
  kind.isSlash c || endsPath c

/-- Holds for blanks and controls, which do not count at the ends. -/
def isEdge (c : Char) : Bool :=
  c.toNat ≤ 0x20

/-- Holds for tabs and line breaks, which count nowhere. -/
def isDropped (c : Char) : Bool :=
  c = '\t' || c = '\n' || c = '\r'

/-- The characters of a text that count. -/
def counted (s : String) : List Char :=
  ((((s.toList.dropWhile isEdge).reverse.dropWhile isEdge).reverse).filter fun c => !isDropped c)

/-- Holds for the characters of a scheme. -/
def isSchemeChar (c : Char) : Bool :=
  c.isAlphanum || c = '+' || c = '-' || c = '.'

/-- A scheme, and the text behind its colon. -/
def splitScheme? (text : List Char) : Option (List Char × List Char) :=
  if (text.head?.map Char.isAlpha).getD false then
    match text.dropWhile isSchemeChar with
    | ':' :: behind => some (text.takeWhile isSchemeChar, behind)
    | _ => none
  else none

/-! ## Paths -/

/-- Holds for the segments that mean the same place. -/
def isSameSegment (segment : List Char) : Bool :=
  String.ofList (segment.map Char.toLower) ∈ [".", "%2e"]

/-- Holds for the segments that mean the place above. -/
def isUpperSegment (segment : List Char) : Bool :=
  String.ofList (segment.map Char.toLower) ∈ ["..", ".%2e", "%2e.", "%2e%2e"]

/-- Follows the segments of a path from those before, which are written backwards. A path that ends with dots
    ends with an empty segment. -/
def follow (before : List (List Char)) : List (List Char) → List (List Char)
  | [] => before.reverse
  | segment :: rest =>
    let before :=
      if isUpperSegment segment then before.drop 1
      else if isSameSegment segment then before
      else segment :: before
    let isDots := isUpperSegment segment || isSameSegment segment
    follow (if rest = [] ∧ isDots then [] :: before else before) rest

/-- The path that a text up to a query or fragment writes. -/
def pathOf (kind : Kind) (text : List Char) : List Char :=
  let written := (text.takeWhile fun c => !endsPath c).map fun c => if kind.isSlash c then '/' else c
  match written with
  | [] => if kind = .other then [] else ['/']
  | '/' :: segments => '/' :: ['/'].intercalate (follow [] (pieces '/' segments))
  | segments => '/' :: ['/'].intercalate (follow [] (pieces '/' segments))

/-- The query in a text behind a host. -/
def queryOf (text : List Char) : List Char :=
  match text.dropWhile fun c => !endsPath c with
  | '?' :: query => query.takeWhile (· ≠ '#')
  | _ => []

/-- The URL that has no user and no service, with the text behind its host. -/
def plain (kind : Kind) (host : UrlHost) (behind : List Char) : Url where
  username := []
  password := none
  host := host
  portNumber := none
  path := pathOf kind behind
  query := queryOf behind

/-! ## Hosts -/

/-- The text before the last occurrence of a character, and the text behind it. -/
def splitLast? (c : Char) (text : List Char) : Option (List Char × List Char) :=
  match text with
  | [] => none
  | d :: rest =>
    match splitLast? c rest with
    | some (before, behind) => some (d :: before, behind)
    | none => if d = c then some ([], rest) else none

/-- The host at the start of a text, and the rest: a colon ends it unless it stands in brackets. -/
def splitHost (inBrackets : Bool) : List Char → List Char × List Char
  | [] => ([], [])
  | c :: rest =>
    if c = ':' ∧ !inBrackets then ([], c :: rest)
    else
      let split := splitHost (if c = '[' then true else if c = ']' then false else inBrackets) rest
      (c :: split.1, split.2)

/-- Reads a host. Only URLs that are not of the web may have none. -/
def hostOf (kind : Kind) (text : List Char) : Except UrlError UrlHost :=
  if kind = .other then UrlHost.ofText text else UrlHost.ofDomain text

/-- Reads the number of the service behind a host: digits, which may be missing, up to the end or a
    backslash. -/
def readPort (text : List Char) : Except UrlError (Option Nat × List Char) :=
  match text with
  | ':' :: rest =>
    let digits := rest.takeWhile Char.isDigit
    let n := digits.foldl (fun n c => 10 * n + digitValue c) 0
    let behind := rest.dropWhile Char.isDigit
    if n < UInt16.size ∧ (behind = [] ∨ behind.head? = some '\\') then
      .ok (if digits = [] then none else some n, behind)
    else .error .invalidPort
  | text => .ok (none, text)

/-- The user's name and password. -/
def splitUser (user : List Char) : List Char × Option (List Char) :=
  match user.dropWhile (· ≠ ':') with
  | _ :: password => (user.takeWhile (· ≠ ':'), if password = [] then none else some password)
  | [] => (user, none)

/-- Reads what follows the slashes before a user and host. -/
def ofAuthority (kind : Kind) (text : List Char) : Except UrlError Url := do
  let authority := text.takeWhile fun c => !kind.endsAuthority c
  let behind := text.dropWhile fun c => !kind.endsAuthority c
  let (user, hostAndPort) := (splitLast? '@' authority).getD ([], authority)
  if user = [] ∧ hostAndPort = [] ∧ authority ≠ [] ∧ behind ≠ [] then throw .emptyHost
  let (username, password) := splitUser user
  let (hostText, portText) := splitHost false hostAndPort
  if hostText = [] ∧ (kind = .web ∨ portText ≠ []) then throw .emptyHost
  let host ← hostOf kind hostText
  let (portNumber, left) ← readPort portText
  if host = .none ∧ (username ≠ [] ∨ password.isSome) then throw .emptyHost
  return { plain kind host (left ++ behind) with username, password, portNumber }

/-- Holds for the names of drives, which are no hosts. -/
def isDrive (text : List Char) : Bool :=
  match text with
  | [letter, mark] => letter.isAlpha && (mark = ':' || mark = '|')
  | _ => false

/-- Reads what follows the scheme of files. The own host is none. -/
def ofFile (text : List Char) : Except UrlError Url := do
  let slashes := (text.take 2).filter Kind.file.isSlash
  if slashes.length < 2 then return plain .file .none text
  let hostText := (text.drop 2).takeWhile fun c => !Kind.file.endsAuthority c
  let behind := (text.drop 2).dropWhile fun c => !Kind.file.endsAuthority c
  if isDrive hostText then return plain .file .none (text.drop 2)
  if hostText = [] then return plain .file .none behind
  let host ← hostOf .file hostText
  return plain .file (if host = .name "localhost".toList then .none else host) behind

/-- Reads what follows the scheme of any other kind. -/
def ofOther (text : List Char) : Except UrlError Url :=
  match text with
  | '/' :: '/' :: rest => ofAuthority .other rest
  | '/' :: _ => .ok (plain .other .none text)
  | _ => .ok { plain .other .none text with path := text.takeWhile fun c => !endsPath c }

def ofText (s : String) : Except UrlError Url :=
  match splitScheme? (counted s) with
  | none => .error .relative
  | some (scheme, rest) =>
    match Kind.ofScheme scheme with
    | .web => ofAuthority .web (rest.dropWhile Kind.web.isSlash)
    | .file => ofFile rest
    | .other => ofOther rest

end Url
end TableGateway
