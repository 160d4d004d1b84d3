import Tenancy.Http.Message

/-! The paths of the service and the methods each of them has. -/

namespace Tenancy.Http

inductive Resource where
  | health
  /-- All registrations. -/
  | collection
  | verification
  | available
  | unauthorized
  | authorized
  /-- One registration, named by the last segment of the path. -/
  | item (segment : List Char)
  deriving DecidableEq

inductive Endpoint where
  | health
  | list
  | register
  | verify
  | available
  | unauthorized
  | authorized
  | deregister (segment : List Char)
  deriving DecidableEq

namespace Resource

def root : List Char := "/api/k8s-namespaces".toList

def child (name : String) : List Char := root ++ '/' :: name.toList

/-- A segment that is not empty and reaches to the end of the path. -/
def segment? (path : List Char) : Option (List Char) :=
  match path with
  | '/' :: first :: rest => if (first :: rest).contains '/' then none else some (first :: rest)
  | _ => none

/-- The names of fixed paths are compared as they were sent, before any escape is resolved. -/
def ofPath? (path : List Char) : Option Resource :=
  if path = "/health".toList then some health
  else if path = root then some collection
  else if path = child "verify" then some verification
  else if path = child "available-list" then some available
  else if path = child "unauth-namespace" then some unauthorized
  else if path = child "authed-namespace" then some authorized
  else if root.isPrefixOf path then (segment? (path.drop root.length)).map item
  else none

/-- Whatever can be fetched can also be asked for without its body. -/
def isFetched (method : String) : Bool :=
  method = "GET" || method = "HEAD"

def endpoint? (resource : Resource) (method : String) : Option Endpoint :=
  match resource with
  | health => if isFetched method then some .health else none
  | collection =>
      if isFetched method then some .list
      else if method = "POST" then some .register
      else none
  | verification => if method = "POST" then some .verify else none
  | available => if isFetched method then some .available else none
  | unauthorized => if isFetched method then some .unauthorized else none
  | authorized => if isFetched method then some .authorized else none
  | item segment => if method = "DELETE" then some (.deregister segment) else none

def methods : Resource → String
  | health | available | unauthorized | authorized => "GET,HEAD"
  | collection => "GET,HEAD,POST"
  | verification => "POST"
  | item _ => "DELETE"

end Resource

/-- Where a request leads. -/
inductive Destination where
  | nowhere
  | wrongMethod (methods : String)
  | endpoint (endpoint : Endpoint)
  deriving DecidableEq

def destination (method : String) (path : List Char) : Destination :=
  match Resource.ofPath? path with
  | none => .nowhere
  | some resource =>
      match resource.endpoint? method with
      | none => .wrongMethod resource.methods
      | some endpoint => .endpoint endpoint

end Tenancy.Http
