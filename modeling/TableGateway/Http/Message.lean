import TableGateway.Http.ContentType
import TableGateway.Http.Identity
import TableGateway.Error
import TableGateway.Net.Url
import TableGateway.Text.Integer

/-!
# Requests and responses

A request has a method, a target, headers and a body; a response has a status and may have a document.
Answers stand in an envelope: one value under `data`, and for a list its length under `meta`.
-/
namespace TableGateway.Http

/-- What is to be done with a target. -/
inductive Method where
  | get
  | head
  | post
  | put
  | patch
  | delete
  | other
  deriving DecidableEq, Repr

/-- The method of a word. -/
def Method.ofText (word : String) : Method :=
  match word with
  | "GET" => .get
  | "HEAD" => .head
  | "POST" => .post
  | "PUT" => .put
  | "PATCH" => .patch
  | "DELETE" => .delete
  | _ => .other

/-- A request; the names of its headers are in lower case. -/
structure Request where
  method : Method
  target : String
  headers : List (String × String)
  body : String
  deriving DecidableEq, Repr

/-- A response; the status alone where there is no document. -/
structure Response where
  status : Nat
  body : Option Json
  deriving Repr

namespace Request

/-- The first header of a name. -/
def header? (r : Request) (name : String) : Option String :=
  (r.headers.find? fun header => header.1 = name).map Prod.snd

/-- The length that the body is said to have. -/
def saidLength? (r : Request) : Option Nat :=
  (r.header? "content-length").bind (readNatural? UInt64.size)

/-- Holds for the characters that end the host in a target. -/
def endsHost (c : Char) : Bool :=
  c = '/' || c = '?' || c = '#'

/-- The target without a host before it and without a fragment. A target with a host starts with a scheme. -/
def location (r : Request) : List Char :=
  let target := r.target.toList
  let behindHost :=
    if target.head? = some '/' then target
    else (((splitBehind? schemeEnd target).map Prod.snd).getD []).dropWhile fun c => !endsHost c
  behindHost.takeWhile (· ≠ '#')

/-- The segments of the path, still encoded; the path starts with the empty one. -/
def segments (r : Request) : List String :=
  splitText '/' (String.ofList (r.location.takeWhile (· ≠ '?')))

/-- The fields of the query. -/
def fields (r : Request) : List (String × String) :=
  formFields (String.ofList ((r.location.dropWhile (· ≠ '?')).drop 1))

/-- The query by name, of which the last field of a name counts. -/
def query (r : Request) : Dict String :=
  .ofList r.fields

/-- Who sends the request. -/
def identity (r : Request) : Identity :=
  .ofHeader (r.header? Identity.header)

end Request

namespace Response

/-- A status without a document. -/
def bare (status : Nat) : Response := ⟨status, none⟩

/-- One value. -/
def one (value : Json) : Response :=
  ⟨200, some (.object [("data", value)])⟩

/-- A list of values with its length. -/
def list (status : Nat) (values : List Json) : Response :=
  ⟨status, some (.object [("data", .array values), ("meta", .object [("count", .ofNat values.length)])])⟩

/-- Values that were found. -/
def many (values : List Json) : Response := list 200 values

/-- Values that were made. -/
def created (values : List Json) : Response := list 201 values

/-- The cause why there is no answer. -/
def ofError (cause : Error) : Response := ⟨cause.status, some cause.body⟩

end Response
end TableGateway.Http
