import Tenancy.Http.MediaType
import Tenancy.Http.Message
import Tenancy.Wire.Request

/-! What an endpoint takes out of a request: values from its query, its path and its body. A request
that cannot be read is refused before the endpoint does anything. -/

namespace Tenancy.Http

open Tenancy.Json
open Tenancy.Text

abbrev Extract (α : Type) := Except Response α

/-! ## Queries -/

def badQuery : Response := .text 400 "Failed to deserialize query string"

/-- The value of a key, if there is one. A key given twice makes the query unreadable. -/
def lookupOnce (key : String) (pairs : List (String × String)) : Extract (Option String) :=
  match pairs.filter (·.1 == key) with
  | [] => .ok none
  | [(_, value)] => .ok (some value)
  | _ => .error badQuery

def required (read : String → Except DecimalFault α) (value : Option String) : Extract α :=
  match value with
  | none => .error badQuery
  | some value =>
      match read value with
      | .ok value => .ok value
      | .error _ => .error badQuery

def listingQuery (request : Request) : Extract ListingQuery := do
  let pairs := Form.pairs request.query
  let search ← lookupOnce "searchVal" pairs
  let number ← required readUInt32 (← lookupOnce "pageNo" pairs)
  let size ← required readUInt32 (← lookupOnce "pageSize" pairs)
  pure ⟨search, number, size⟩

def subjectQuery (request : Request) : Extract SubjectQuery := do
  let user ← required readInt64 (← lookupOnce "userId" (Form.pairs request.query))
  pure ⟨user⟩

/-! ## Paths -/

def badSegment : Response := .text 400 "Invalid URL"

def segmentId (segment : List Char) : Extract Int64 :=
  match Percent.decodeStrict? segment with
  | none => .error badSegment
  | some decoded =>
      match readInt64 (.ofList decoded) with
      | .ok id => .ok id
      | .error _ => .error badSegment

/-! ## Bodies -/

def notJson : Response := .text 415 "Expected request with `Content-Type: application/json`"

def badJson : Fault → Response
  | .malformed => .text 400 "Failed to parse the request body as JSON"
  | .mismatched => .text 422 "Failed to deserialize the JSON body into the target type"

def isJson (request : Request) : Bool :=
  match request.contentType.bind visibleText? with
  | some type => MediaType.isJson type.toList
  | none => false

/-- The most bytes a body may have. -/
def bodyLimit : Nat := 2 * 1024 * 1024

def tooLarge : Response := .text 413 "Failed to buffer the request body"

/-- Only the first value of the body is read. -/
def jsonBody (codec : Codec α) (request : Request) : Extract α :=
  if !isJson request then .error notJson
  else if bodyLimit < request.body.length then .error tooLarge
  else (readLeading codec.read (textOf request.body)).mapError badJson

end Tenancy.Http
