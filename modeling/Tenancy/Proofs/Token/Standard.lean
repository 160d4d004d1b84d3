import Tenancy.Proofs.Wire.Identity
import Tenancy.Token.Standard

/-! The rules of the standards are a reading of tokens: the claims that are issued here pass them. -/

namespace Tenancy.Token

open Tenancy.Json
open Tenancy.Text

namespace Standard

/-- Claims have nothing to add to. -/
theorem read_claims (claims : Claims) :
    additionsShape.read (Wire.claims.write claims) = .ok (none, []) := by
  have finished : additionsShape.finish additionsShape.blank = some none := rfl
  rw [← List.append_nil (Wire.claims.write claims)]
  refine Shape.read_writeObject ?_ finished []
  refine .unknown rfl (fun _ _ => skipValue_writeString claims.subject _) ?_
  refine .unknown rfl (fun _ _ => skipValue_writeString claims.username _) ?_
  refine .unknown rfl (fun _ _ => skipValue_writeString claims.role _) ?_
  refine .unknown rfl (fun _ ends => skipValue_writeInteger claims.expiry.toNat ends.endsNumber) ?_
  refine .unknown rfl
    (fun _ ends => skipValue_writeInteger claims.issuedAt.toNat ends.endsNumber) ?_
  exact .nothing

end Standard

def Reading.standard : Reading where
  readKey := Standard.readKey
  readAudience := Standard.readAudience
  readAudience_claims claims := by
    rw [Standard.readAudience, textOf_encode, readAll, Standard.read_claims]
    rfl

end Tenancy.Token
