import TableGateway.Error
import TableGateway.Net.Address
import TableGateway.Text.Blank
import TableGateway.Text.Delimited

/-!
# Configuration

What a gateway needs to know, read from named texts. Blanks around a text do not count, and an empty text is
none. The faults are looked for in a fixed order.
-/
namespace TableGateway

/-- What a gateway needs to know. -/
structure Configuration where
  databaseUrl : String
  /-- The schema whose tables are served. -/
  schemaName : String
  /-- The tables that are served; none means all. -/
  includedTables : List String
  /-- The schema that holds the settings. -/
  settingsSchema : String
  /-- The greatest limit of a page. -/
  maxPageLimit : UInt32
  listenAddress : SocketAddress
  /-- The greatest number of bytes of a body. -/
  bodyLimit : Nat
  deriving DecidableEq, Repr

/-- Why named texts are no configuration. -/
inductive ConfigurationError where
  | noDatabaseUrl
  | settingsSchema (text : String)
  | maxPageLimit (text : String)
  | listenAddress
  | bodyLimit (text : String)
  deriving DecidableEq, Repr

def ConfigurationError.message : ConfigurationError → String
  | .noDatabaseUrl => "DATABASE_URL is required"
  | .settingsSchema text => "SETTINGS_SCHEMA must be a plain identifier, got " ++ text
  | .maxPageLimit text => "MAX_PAGE_LIMIT must be a positive integer, got " ++ text
  | .listenAddress => "LISTEN_ADDR: invalid socket address syntax"
  | .bodyLimit text => "BODY_LIMIT_BYTES must be an integer, got " ++ text

/-- Holds for identifiers that need no quotes: letters, digits and underscores of ASCII, no digit first, at
    most 63 of them. -/
def isPlainIdentifier (s : String) : Bool :=
  match s.toList with
  | [] => false
  | c :: rest => (c.isAlpha || c = '_') && rest.all (fun d => d.isAlphanum || d = '_') && rest.length ≤ 62

namespace Configuration

/-- The configuration with nothing but the address of the database. -/
def ofUrl (url : String) : Configuration where
  databaseUrl := url
  schemaName := "public"
  includedTables := []
  settingsSchema := "pgdeck"
  maxPageLimit := 1000
  listenAddress := .v4 .unspecified 3000
  bodyLimit := 2 * 1024 * 1024

/-- A named text without the blanks around it, unless nothing is left. -/
def named? (lookup : String → Option String) (name : String) : Option String :=
  ((lookup name).map trimmed).filter (· ≠ "")

/-- The names of a list with commas. -/
def listed (text : String) : List String :=
  ((splitText ',' text).map trimmed).filter (· ≠ "")

/-- The value of a named text, or another one where there is no such text. -/
def read {α : Type} (lookup : String → Option String) (name : String) (absent : α)
    (ofText : String → Except ConfigurationError α) : Except ConfigurationError α :=
  match named? lookup name with
  | some text => ofText text
  | none => .ok absent

/-- The value that was read, or the cause why there is none. -/
def orCause {α : Type} (cause : ConfigurationError) : Option α → Except ConfigurationError α
  | some value => .ok value
  | none => .error cause

/-- The configuration of named texts. -/
def ofLookup (lookup : String → Option String) : Except ConfigurationError Configuration := do
  let databaseUrl ← orCause .noDatabaseUrl (named? lookup "DATABASE_URL")
  let base := ofUrl databaseUrl
  let schemaName ← read lookup "SCHEMA_NAME" base.schemaName .ok
  let includedTables ← read lookup "INCLUDED_TABLES" base.includedTables fun text => .ok (listed text)
  let settingsSchema ← read lookup "SETTINGS_SCHEMA" base.settingsSchema fun text =>
    if isPlainIdentifier text then .ok text else .error (.settingsSchema text)
  let maxPageLimit ← read lookup "MAX_PAGE_LIMIT" base.maxPageLimit fun text =>
    orCause (.maxPageLimit text) (((readNatural? UInt32.size text).filter (0 < ·)).map UInt32.ofNat)
  let listenAddress ← read lookup "LISTEN_ADDR" base.listenAddress fun text =>
    orCause .listenAddress (SocketAddress.ofText? text)
  let bodyLimit ← read lookup "BODY_LIMIT_BYTES" base.bodyLimit fun text =>
    orCause (.bodyLimit text) (readNatural? UInt64.size text)
  return { databaseUrl, schemaName, includedTables, settingsSchema, maxPageLimit, listenAddress, bodyLimit }

end Configuration
end TableGateway
