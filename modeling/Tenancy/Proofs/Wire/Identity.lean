import Tenancy.Proofs.Json.Record
import Tenancy.Wire.Identity

/-! Roles, principals and the claims of a token come back from their wire forms. -/

namespace Tenancy.Wire

open Tenancy.Json

theorem role_faithful : role.Faithful := by
  intro value rest
  have named : Role.ofName? (String.ofList value.name.toList) = some value := by
    rw [String.ofList_toList, Role.ofName?_name]
  simp only [role]
  rw [writeString_append, readRole, skipSpace_cons rfl]
  simp only [readRoleName, readChars_flatMap, bind, Except.bind, named]
  rfl

theorem principal_faithful : principal.Faithful := by
  intro value rest
  let final : PartialPrincipal := ⟨some value.id, some value.username, some value.role⟩
  have finished : principalShape.finish final = some value := rfl
  refine Shape.read_writeObject ?_ finished rest
  refine .field rfl rfl (fun _ ends => readInt64_writeInteger value.id ends.endsNumber) ?_
  refine .field rfl rfl (fun _ _ => readString_writeString value.username _) ?_
  refine .field rfl rfl (fun _ _ => role_faithful value.role _) ?_
  exact .nothing

theorem claims_faithful : claims.Faithful := by
  intro value rest
  let final : PartialClaims := ⟨some value.subject, some value.username, some value.role,
    some value.expiry, some value.issuedAt⟩
  have finished : claimsShape.finish final = some value := rfl
  refine Shape.read_writeObject ?_ finished rest
  refine .field rfl rfl (fun _ _ => readString_writeString value.subject _) ?_
  refine .field rfl rfl (fun _ _ => readString_writeString value.username _) ?_
  refine .field rfl rfl (fun _ _ => readString_writeString value.role _) ?_
  refine .field rfl rfl (fun _ ends => readUInt64_writeInteger value.expiry ends.endsNumber) ?_
  refine .field rfl rfl (fun _ ends => readUInt64_writeInteger value.issuedAt ends.endsNumber) ?_
  exact .nothing

end Tenancy.Wire
