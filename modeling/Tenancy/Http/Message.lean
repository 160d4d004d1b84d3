import Tenancy.Error
import Tenancy.Json.Codec
import Tenancy.Text.Percent
import Tenancy.Wire.Report

/-! Requests and responses. Only the headers that matter here are kept. -/

namespace Tenancy.Http

open Tenancy.Json
open Tenancy.Text

structure Request where
  method : String
  /-- The path as it was sent, escapes and all. -/
  path : List Char
  /-- The text after the question mark; empty where there is none. -/
  query : List Char
  authorization : Option String
  contentType : Option String
  body : List UInt8
  deriving DecidableEq

namespace Request

/-- Cuts a target into its path and its query, and drops the fragment. -/
def splitTarget (target : String) : List Char × List Char :=
  let (path, query) := (target.toList.takeWhile (· != '#')).span (· != '?')
  (path, query.drop 1)

end Request

/-- A header value counts as text only if every character of it is visible, a blank or a tab. -/
def visibleText? (value : String) : Option String :=
  if value.toList.all fun character => (' ' ≤ character && character ≤ '~') || character == '\t' then
    some value
  else none

/-- The body is empty where there is no content type. -/
structure Response where
  status : UInt16
  contentType : Option String
  /-- The methods that the path does have, where the one asked for is none of them. -/
  allow : Option String
  body : String
  deriving DecidableEq, Repr

namespace Response

def jsonType : String := "application/json"

def textType : String := "text/plain; charset=utf-8"

def json (status : UInt16) (body : List Char) : Response :=
  ⟨status, some jsonType, none, .ofList body⟩

def encoded (status : UInt16) (codec : Codec α) (value : α) : Response :=
  json status (codec.write value)

def empty (status : UInt16) : Response :=
  ⟨status, none, none, ""⟩

/-- The refusal of a request that could not be read. -/
def text (status : UInt16) (body : String) : Response :=
  ⟨status, some textType, none, body⟩

def failure (error : ApiError) (now : Instant) : Response :=
  let report := error.report now
  encoded report.status Wire.report report

/-- The answer to a request that does not tell who asks. -/
def unauthenticated (error message : String) : Response :=
  json 401 (writeObject [("error", writeString error), ("message", writeString message)])

def allowing (response : Response) (methods : String) : Response :=
  { response with allow := some methods }

def withoutBody (response : Response) : Response :=
  { response with body := "" }

end Response

end Tenancy.Http
