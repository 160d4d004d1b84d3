import Tenancy.Proofs.Token.Bearer
import Tenancy.Proofs.Token.Standard

/-! How long an issued token is good for. The hours of its lifetime are counted in 64 bits with a
sign, and its expiry is kept without one. -/

namespace Tenancy.Token

theorem toNat_toUInt64 (value : Int64) :
    (value.toUInt64.toNat : Int) = value.toInt % UInt64.size := by
  have small : (value.toUInt64.toNat : Int) < UInt64.size :=
    Int.ofNat_lt.mpr value.toUInt64.toNat_lt
  have same : value.toInt = (value.toUInt64.toNat : Int).bmod UInt64.size :=
    BitVec.toInt_eq_toNat_bmod _
  rw [same, Int.bmod_emod, Int.emod_eq_of_lt (Int.natCast_nonneg _) small]

/-- The second a lifetime of so many hours ends, on a clock that has no bounds. -/
def lastSecond (hours issued : Int64) : Int :=
  issued.toInt + 3600 * hours.toInt

def expiryOf (hours issued : Int64) : UInt64 :=
  (issued + hours * secondsPerHour).toUInt64

theorem toNat_expiryOf (hours issued : Int64) :
    ((expiryOf hours issued).toNat : Int) = lastSecond hours issued % UInt64.size := by
  have seconds : secondsPerHour.toInt = 3600 := by decide
  rw [expiryOf, toNat_toUInt64, Int64.toInt_add, Int64.toInt_mul, seconds, Int.bmod_emod,
    Int.add_emod, Int.bmod_emod, ← Int.add_emod, Int.mul_comm, lastSecond]

theorem isExpired_eq (claims : Claims) (now : Int) :
    isExpired claims now = !decide (now ≤ claims.expiry.toNat + leeway) := by
  rw [isExpired, ← decide_not]
  apply decide_eq_decide.mpr
  omega

/-- A token is refused for nothing but its age. -/
theorem check_issue (reading : Reading) (secret : String) (principal : Principal)
    (hours issued : Int64) (now : Int) :
    check reading secret (issue secret principal hours issued) now =
      if now ≤ lastSecond hours issued % UInt64.size + leeway then
        .ok (.ofPrincipal principal issued.toUInt64 (expiryOf hours issued))
      else .error .expired := by
  have expiry : ((Claims.ofPrincipal principal issued.toUInt64
      (expiryOf hours issued)).expiry.toNat : Int) = lastSecond hours issued % UInt64.size :=
    toNat_expiryOf hours issued
  have issued_eq : issue secret principal hours issued =
      ofClaims secret (.ofPrincipal principal issued.toUInt64 (expiryOf hours issued)) := rfl
  rw [issued_eq, check_ofClaims, isExpired_eq, expiry]
  by_cases live : now ≤ lastSecond hours issued % UInt64.size + leeway
  · rw [if_pos live, decide_eq_true live, Bool.not_true, if_neg Bool.false_ne_true]
  · rw [if_neg live, decide_eq_false live, Bool.not_false, if_pos rfl]

/-- The clock of a token goes around every 2^64 seconds from the epoch. On its first round the token
is good up to its last second and the leeway after it. -/
theorem lifetime_of_issued (reading : Reading) (secret : String) (principal : Principal)
    (hours issued : Int64) (now : Int) :
    (check reading secret (issue secret principal hours issued) now =
      if now ≤ lastSecond hours issued % UInt64.size + leeway then
        .ok (.ofPrincipal principal issued.toUInt64 (expiryOf hours issued))
      else .error .expired) ∧
    (0 ≤ lastSecond hours issued → lastSecond hours issued < UInt64.size →
      ((∃ claims, check reading secret (issue secret principal hours issued) now = .ok claims) ↔
        now ≤ lastSecond hours issued + leeway)) := by
  have checked := check_issue reading secret principal hours issued now
  refine ⟨checked, fun epoch fits => ?_⟩
  rw [Int.emod_eq_of_lt epoch fits] at checked
  rw [checked]
  split
  · next live => exact ⟨fun _ => live, fun _ => ⟨_, rfl⟩⟩
  · next late => exact ⟨nofun, fun live => absurd live late⟩

/-- An hour from the first second of 2026, at the last second of the leeway and at the next. -/
theorem lifetime_of_an_hour :
    0 ≤ lastSecond 1 1767225600 ∧ lastSecond 1 1767225600 < UInt64.size ∧
      (∃ claims, check .standard "secret" (issue "secret" ⟨7, "alice", .general⟩ 1 1767225600)
        1767229260 = .ok claims) ∧
      ¬∃ claims, check .standard "secret" (issue "secret" ⟨7, "alice", .general⟩ 1 1767225600)
        1767229261 = .ok claims := by
  have epoch : 0 ≤ lastSecond 1 1767225600 := by decide
  have fits : lastSecond 1 1767225600 < UInt64.size := by decide
  refine ⟨epoch, fits, ?_, ?_⟩
  · exact ((lifetime_of_issued .standard "secret" ⟨7, "alice", .general⟩ 1 1767225600 1767229260).2
      epoch fits).mpr (by decide)
  · intro accepted
    have live := ((lifetime_of_issued .standard "secret" ⟨7, "alice", .general⟩ 1 1767225600
      1767229261).2 epoch fits).mp accepted
    exact absurd live (by decide)

/-- A lifetime that ended before the epoch is good for ages, and the longest one is over at once. -/
theorem lifetimes_go_around :
    (∃ claims, check .standard "secret" (issue "secret" ⟨7, "alice", .general⟩ (-1000000) 1767225600)
      1767225600 = .ok claims) ∧
    ¬1767225600 ≤ lastSecond (-1000000) 1767225600 + leeway ∧
    (check .standard "secret" (issue "secret" ⟨7, "alice", .general⟩ Int64.maxValue 1767225600)
      1767225600 = .error .expired) ∧
    1767225600 ≤ lastSecond Int64.maxValue 1767225600 + leeway := by
  refine ⟨?_, by decide, ?_, by decide⟩
  · rw [check_issue, if_pos (by decide)]
    exact ⟨_, rfl⟩
  · rw [check_issue, if_neg (by decide)]

end Tenancy.Token
