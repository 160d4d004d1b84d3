import Tenancy.Json.Codec
import Tenancy.Token.Claims

/-! The wire forms of roles, principals and token claims. -/

namespace Tenancy.Wire

open Tenancy.Json

/-! A role is written as its name. It is also read from an object that has the name as its only key
and null as its value. -/

def readRoleName (text : List Char) : Except Fault (Role × List Char) := do
  let (characters, rest) ← readChars text
  match Role.ofName? (.ofList characters) with
  | some role => pure (role, rest)
  | none => .error .mismatched

def readRole : Reader Role := fun text =>
  match skipSpace text with
  | '"' :: rest => readRoleName rest
  | '\x7b' :: rest =>
      match skipSpace rest with
      | '"' :: rest => do
          let (role, rest) ← readRoleName rest
          let (_, rest) ← readNull (← Shape.readColon rest)
          pure (role, ← Shape.closeMembers rest)
      | other => .error (wrongKind other)
  | _ => .error .malformed

def role : Codec Role where
  write value := writeString value.name
  read := readRole

structure PartialPrincipal where
  id : Option Int64
  username : Option String
  role : Option Role

def principalShape : Shape PartialPrincipal Principal where
  blank := ⟨none, none, none⟩
  fields := [
    .of "user_id" (·.id) (fun state value => { state with id := some value }) readInt64,
    .of "username" (·.username) (fun state value => { state with username := some value })
      readString,
    .of "role" (·.role) (fun state value => { state with role := some value }) readRole]
  finish state := do some ⟨← state.id, ← state.username, ← state.role⟩

def principal : Codec Principal where
  write value := writeObject [
    ("user_id", writeInteger value.id.toInt),
    ("username", writeString value.username),
    ("role", role.write value.role)]
  read := principalShape.read

structure PartialClaims where
  subject : Option String
  username : Option String
  role : Option String
  expiry : Option UInt64
  issuedAt : Option UInt64

def claimsShape : Shape PartialClaims Claims where
  blank := ⟨none, none, none, none, none⟩
  fields := [
    .of "sub" (·.subject) (fun state value => { state with subject := some value }) readString,
    .of "username" (·.username) (fun state value => { state with username := some value })
      readString,
    .of "role" (·.role) (fun state value => { state with role := some value }) readString,
    .of "exp" (·.expiry) (fun state value => { state with expiry := some value }) readUInt64,
    .of "iat" (·.issuedAt) (fun state value => { state with issuedAt := some value }) readUInt64]
  finish state := do
    some ⟨← state.subject, ← state.username, ← state.role, ← state.expiry, ← state.issuedAt⟩

def claims : Codec Claims where
  write value := writeObject [
    ("sub", writeString value.subject),
    ("username", writeString value.username),
    ("role", writeString value.role),
    ("exp", writeInteger value.expiry.toNat),
    ("iat", writeInteger value.issuedAt.toNat)]
  read := claimsShape.read

end Tenancy.Wire
