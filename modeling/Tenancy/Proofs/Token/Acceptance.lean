import Tenancy.Proofs.Outcome
import Tenancy.Proofs.Token.Bearer
import Tenancy.Proofs.Token.Standard

/-! What a token has to be for its claims to be taken. -/

namespace Tenancy.Token

open Tenancy.Json
open Tenancy.Text

/-! ## Parts -/

theorem isAddressed_eq_false {audience : Option Audience} :
    isAddressed audience = false ↔
      audience ≠ some .one ∧ ∀ count, audience = some (.several count) → count = 0 := by
  cases audience with
  | none => simp [isAddressed]
  | some audience => cases audience <;> simp [isAddressed]

/-! ## Acceptance -/

/-- A token that vouches for claims up to a minute after their expiry. Its payload is read for the
claims, and once more for whom it is meant. -/
structure Vouches (reading : Reading) (secret token : String) (claims : Claims) (now : Int)
    (header payload : List UInt8) : Prop where
  signed : token = signedToken secret header payload
  algorithm : readAll (TokenHeader.shape reading.readKey).read (textOf header) = .ok .hs256
  claimed : readAll Wire.claims.read (textOf payload) = .ok claims
  record : (skipSpace (textOf payload)).head? = some '\x7b'
  unaddressed : ∃ audience, reading.readAudience payload = .ok audience ∧
    audience ≠ some .one ∧ ∀ count, audience = some (.several count) → count = 0
  live : now - 60 ≤ claims.expiry.toNat

theorem Vouches.check_eq {reading : Reading} {secret token : String} {claims : Claims} {now : Int}
    {header payload : List UInt8}
    (vouches : Vouches reading secret token claims now header payload) :
    check reading secret token now = .ok claims := by
  rcases vouches with ⟨rfl, algorithm, claimed, record, ⟨audience, read, unaddressed⟩, live⟩
  have fresh : isExpired claims now = false := by
    rw [isExpired, decide_eq_false_iff_not, leeway]
    omega
  rw [check_signedToken algorithm claimed, if_pos record, read, fresh]
  simp only [isAddressed_eq_false.mpr unaddressed, Bool.false_eq_true, if_false]

end Tenancy.Token
