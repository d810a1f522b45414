import TableGateway.Database.Request
import TableGateway.Net.Url
import TableGateway.Text.Blank
import TableGateway.Text.Delimited
import TableGateway.Text.Integer

/-!
# Where a database is

The URL of a database names it in its path. Beside it stands the URL of the database that the server is
maintained through (`DatabaseUrl.split?`). A connection to a URL is made at its host and opens the database of
its path, unless the fields of its query say otherwise (`Connection.ofUrl`).
-/
namespace TableGateway.DatabaseUrl

/-- The name of the database for maintenance. -/
def maintenanceName : String := "postgres"

/-- The URL for maintenance and the name of the database that a URL is of; without a path there are none. -/
def split? (url : String) : Option (String × String) :=
  let (head, rest) := (splitBehind? schemeEnd url.toList).getD ([], url.toList)
  match rest.dropWhile (· ≠ '/') with
  | [] => none
  | _ :: pathAndQuery =>
    let base := head ++ rest.takeWhile (· ≠ '/') ++ ['/']
    let name := pathAndQuery.takeWhile (· ≠ '?')
    let query := pathAndQuery.dropWhile (· ≠ '?')
    some (String.ofList (base ++ maintenanceName.toList ++ query), trimmed (String.ofList name))

end TableGateway.DatabaseUrl

namespace TableGateway

/-- What a connection is made with. A socket goes before a host. -/
structure Connection where
  socket : Option String
  host : String
  database : Option String
  deriving DecidableEq, Repr

namespace Connection

/-- The host where none is given, whose address is always known. -/
def ownHost : String := "localhost"

/-- Holds for hosts whose address needs no look-up. -/
def isAddress (host : String) : Bool :=
  (IpAddress.ofText? host).isSome || (UrlHost.domainAddress? host.toList).isSome || host.toLower = ownHost

/-- Where the server of a connection listens. -/
def endpoint (c : Connection) : Endpoint :=
  match c.socket with
  | some folder => .socket folder
  | none =>
    if c.host.startsWith "/" then .socket c.host
    else if isAddress c.host then .address c.host
    else .named c.host

/-- The wording of a cause in the settings of a connection. -/
def configurationText (reason : String) : String :=
  "error with configuration: " ++ reason

/-- The wording for bytes that are no text. -/
def faultText (fault : Nat × Option Nat) : String :=
  match fault with
  | (index, some length) => "invalid utf-8 sequence of " ++ length.repr ++ " bytes from index " ++ index.repr
  | (index, none) => "incomplete utf-8 byte sequence from index " ++ index.repr

def decoded (part : List Char) : Except String String :=
  let bytes := percentDecode (utf8Bytes (String.ofList part))
  match utf8Text? bytes with
  | some text => .ok text
  | none => .error (configurationText (((utf8Fault 0 (utf8Pieces bytes)).map faultText).getD ""))

/-- The modes that a connection may be secured in. -/
def securityModes : List String :=
  ["disable", "allow", "prefer", "require", "verify-ca", "verify-full"]

/-- A natural number below `bound`. -/
def checkNatural (bound : Nat) (value : String) : Except String Unit :=
  match readNatural bound value with
  | .ok _ => .ok ()
  | .error cause => .error (configurationText cause.message)

/-- The connection with a host, which is a socket if it is a path. -/
def withHost (c : Connection) (host : String) : Connection :=
  if host.startsWith "/" then { c with socket := some host } else { c with host }

/-- The connection with a field of the query. -/
def withField (c : Connection) (key value : String) : Except String Connection :=
  if key ∈ ["sslmode", "ssl-mode"] then
    if value.toLower ∈ securityModes then .ok c
    else
      .error (configurationText (configurationText ("unknown value " ++ shown value ++ " for `ssl_mode`")))
  else if key = "statement-cache-capacity" then (checkNatural UInt64.size value).map fun _ => c
  else if key = "hostaddr" then
    if (IpAddress.ofText? value).isSome then .ok { c with host := value }
    else .error (configurationText "invalid IP address syntax")
  else if key = "port" then (checkNatural UInt16.size value).map fun _ => c
  else if key = "host" then .ok (c.withHost value)
  else if key = "dbname" then .ok { c with database := some value }
  else .ok c

/-- The connection with the host of a URL. A name that is written as an encoded path is a socket. -/
def withUrlHost (c : Connection) : UrlHost → Except String Connection
  | .none => .ok c
  | .v4 a => .ok { c with host := a.text }
  | .v6 a => .ok { c with host := a.text }
  | .name text =>
    if (percentDecode (utf8Bytes (String.ofList text))).head? = some 0x2F then
      (decoded text).map fun folder => { c with socket := some folder }
    else .ok { c with host := String.ofList text }

/-- The connection to a URL, or the wording why there can be none. Its parts are read in a fixed order, the
    fields of the query last. -/
def ofUrl (url : String) : Except String Connection :=
  match Url.ofText url with
  | .error cause => .error (configurationText cause.message)
  | .ok url => do
    let c ← withUrlHost ⟨none, ownHost, none⟩ url.host
    let _ ← decoded url.username
    let _ ← decoded (url.password.getD [])
    let path := url.path.dropWhile (· = '/')
    let database ← if path = [] then pure none else (decoded path).map some
    (formFields (String.ofList url.query)).foldlM (fun c field => c.withField field.1 field.2)
      { c with database }

end Connection
end TableGateway
