import Tenancy.Cluster.Location
import Tenancy.Json.Writer

/-! What is asked of an API server, and what its replies mean. -/

namespace Tenancy.Cluster

open Tenancy.Json

/-! ## Requests -/

inductive Method where
  | get
  | post
  deriving DecidableEq, Repr

def Method.text : Method → String
  | get => "GET"
  | post => "POST"

/-- A namespace as it is put on a cluster. -/
structure NamespaceObject where
  name : String
  labels : List (String × String)
  deriving DecidableEq, Repr

structure Request where
  method : Method
  path : String
  body : Option NamespaceObject
  deriving DecidableEq, Repr

def collectionPath : String := "/api/v1/namespaces"

/-- Whether a name can stand in the path of a request. -/
def isUsableName (name : String) : Bool :=
  !name.isEmpty && name.toList.all Location.isPathChar

/-- Asks for a namespace by its name. -/
def lookup? (name : String) : Option Request :=
  if isUsableName name then some ⟨.get, collectionPath ++ "/" ++ name, none⟩ else none

/-- The label of all namespaces that the registry creates. -/
def managedBy : String × String := ("app.kubernetes.io/managed-by", "nsregistry")

def creation (name : String) : Request :=
  ⟨.post, collectionPath ++ "?", some ⟨name, [managedBy]⟩⟩

def NamespaceObject.write (object : NamespaceObject) : List Char :=
  writeObject [
    ("apiVersion", writeString "v1"),
    ("kind", writeString "Namespace"),
    ("metadata", writeObject [
      ("labels", writeObject (object.labels.map fun (key, value) => (key, writeString value))),
      ("name", writeString object.name)])]

/-! ## Replies -/

inductive Reply where
  | answered (status : Nat) (body : List UInt8)
  /-- The server takes the request and never answers. -/
  | silent
  /-- The request does not get to the server. -/
  | unreached (cause : String)
  deriving DecidableEq, Repr

/-- The refusal of a request, in the words of the server. -/
structure Refusal where
  code : UInt16
  reason : String
  message : String
  deriving DecidableEq, Repr

def Refusal.text (refusal : Refusal) : String :=
  refusal.message ++ ": " ++ refusal.reason

inductive Verdict where
  /-- The reply is the namespace. -/
  | present
  | refused (refusal : Refusal)
  | unreadable
  deriving DecidableEq, Repr

/-- A way to read the answers of API servers. -/
structure Reading where
  judge (status : Nat) (body : List UInt8) : Verdict

end Tenancy.Cluster
