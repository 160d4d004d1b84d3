import Tenancy.Cluster.Exchange
import Tenancy.Instant.Text
import Tenancy.Json.Kept
import Tenancy.Text.Quoted

/-! Answers read by the types of what API servers send: an answer is a namespace only if every member
of it that a namespace has is of the right type. -/

namespace Tenancy.Cluster

open Tenancy.Json
open Tenancy.Text

/-! ## Refusals -/

structure PartialRefusal where
  status : Option String
  message : Option String
  reason : Option String
  code : Option UInt16

def refusalShape : Shape PartialRefusal Refusal where
  blank := ⟨none, none, none, none⟩
  fields := [
    .of "status" (·.status) (fun state value => { state with status := some value }) readString,
    .of "message" (·.message) (fun state value => { state with message := some value }) readString,
    .of "reason" (·.reason) (fun state value => { state with reason := some value }) readString,
    .of "code" (·.code) (fun state value => { state with code := some value }) readUInt16]
  finish state := do
    let _ ← state.status
    some ⟨← state.code, state.reason.getD "", state.message.getD ""⟩

/-! ## Objects -/

/-- An object of which these members are read, each as often as it is given, and the others passed
over. -/
def readObject (members : List (String × Reader Unit)) : Reader Unit := fun text =>
  let shape : Shape Unit Unit := {
    blank := ()
    fields := members.map fun (key, reader) => ⟨key, fun _ => false, fun _ => reader⟩
    finish := some }
  match skipSpace text with
  | '\x7b' :: _ => shape.read text
  | other => .error (wrongKind other)

/-- A member that may be null. -/
def may (key : String) (reader : Reader α) : String × Reader Unit :=
  (key, checking (readOptional reader))

/-- A member that can have one value only. -/
def must (key value : String) : String × Reader Unit :=
  (key, checking (readVia fun written => if written = value then some () else none))

def texts : List String → List (String × Reader Unit) :=
  List.map (may · readString)

def readTime : Reader Unit :=
  checking (readVia fun written => Instant.read? written.toList)

/-- How deep a value of any kind may be nested inside the objects around it. -/
def fieldsDepth : Nat := 123

def readManager : Reader Unit :=
  readObject (texts ["apiVersion", "fieldsType", "manager", "operation", "subresource"] ++
    [may "fieldsV1" (readKept fieldsDepth), may "time" readTime])

def readOwner : Reader Unit :=
  readObject (texts ["apiVersion", "kind", "name", "uid"] ++
    [may "blockOwnerDeletion" readBool, may "controller" readBool])

def readMetadata : Reader Unit :=
  readObject (
    texts ["generateName", "name", "namespace", "resourceVersion", "selfLink", "uid"] ++
    [may "annotations" (readMap (checking readString)),
      may "creationTimestamp" readTime,
      may "deletionGracePeriodSeconds" readInt64,
      may "deletionTimestamp" readTime,
      may "finalizers" (readArray readString),
      may "generation" readInt64,
      may "labels" (readMap (checking readString)),
      may "managedFields" (readArray readManager),
      may "ownerReferences" (readArray readOwner)])

def readCondition : Reader Unit :=
  readObject (texts ["message", "reason", "status", "type"] ++
    [may "lastTransitionTime" readTime])

/-- An object is a namespace unless it says that it is of another kind. -/
def readNamespace : Reader Unit :=
  readObject [must "apiVersion" "v1", must "kind" "Namespace", may "metadata" readMetadata,
    may "spec" (readObject [may "finalizers" (readArray readString)]),
    may "status" (readObject (texts ["phase"] ++ [may "conditions" (readArray readCondition)]))]

/-! ## Verdicts -/

/-- The reason given to a refusal whose body does not tell one. -/
def unclearReason : String := "Failed to parse error data"

def verdict (status : Nat) (body : List UInt8) : Verdict :=
  match Utf8.decode? body with
  | none => .unreadable
  | some text =>
      if 400 ≤ status && status < 600 then
        match readAll refusalShape.read text with
        | .ok refusal => .refused refusal
        | .error _ => .refused ⟨.ofNat status, unclearReason, Quoted.text (.ofList text)⟩
      else
        match readAll readNamespace text with
        | .ok () => .present
        | .error _ => .unreadable

def Reading.typed : Reading where
  judge := verdict

end Tenancy.Cluster
