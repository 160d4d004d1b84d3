import Tenancy.Error
import Tenancy.Json.Codec

/-! The wire form of the report of a failure. Details are left out where there are none. -/

namespace Tenancy.Wire

open Tenancy.Json

structure PartialReport where
  status : Option UInt16
  error : Option String
  message : Option String
  details : Option (Option String)
  timestamp : Option String

def reportShape : Shape PartialReport ErrorReport where
  blank := ⟨none, none, none, none, none⟩
  fields := [
    .of "status" (·.status) (fun state value => { state with status := some value }) readUInt16,
    .of "error" (·.error) (fun state value => { state with error := some value }) readString,
    .of "message" (·.message) (fun state value => { state with message := some value }) readString,
    .of "details" (·.details) (fun state value => { state with details := some value })
      (readOptional readString),
    .of "timestamp" (·.timestamp) (fun state value => { state with timestamp := some value })
      readString]
  finish state := do
    some ⟨← state.status, ← state.error, ← state.message, state.details.getD none,
      ← state.timestamp⟩

def detailsMember : Option String → List (String × List Char)
  | some details => [("details", writeString details)]
  | none => []

def report : Codec ErrorReport where
  write value := writeObject (
    [("status", writeInteger value.status.toNat),
      ("error", writeString value.error),
      ("message", writeString value.message)] ++
    detailsMember value.details ++
    [("timestamp", writeString value.timestamp)])
  read := reportShape.read

end Tenancy.Wire
