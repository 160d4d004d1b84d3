import Tenancy.Proofs.Token.Lifetime

/-! A token that is presented as soon as it is issued is good, and tells of the principal it was
issued to. -/

namespace Tenancy

namespace Claims

/-- Ids and roles come back from the texts they are claimed with. -/
theorem principal?_ofPrincipal (principal : Principal) (issuedAt expiry : UInt64) :
    (ofPrincipal principal issuedAt expiry).principal? = some principal := by
  simp only [principal?, ofPrincipal, Text.readInt64_decimal, Role.parse_name]

end Claims

namespace Token

open Text

/-! ## Parts -/

/-- None of the parts has a dot in it. -/
theorem splitOn_signedToken (secret : String) (header payload : List UInt8) :
    (signedToken secret header payload).toList.splitOn '.' =
      [Base64Url.encode header, Base64Url.encode payload,
        sign secret (Base64Url.encode header ++ '.' :: Base64Url.encode payload)] := by
  have joined : (signedToken secret header payload).toList =
      ['.'].intercalate [Base64Url.encode header, Base64Url.encode payload,
        sign secret (Base64Url.encode header ++ '.' :: Base64Url.encode payload)] := by
    rw [signedToken, String.toList_ofList]
    simp [List.intercalate, List.intersperse]
  rw [joined, List.splitOn_intercalate]
  · intro part member
    simp only [List.mem_cons, List.not_mem_nil, or_false] at member
    rcases member with rfl | rfl | rfl <;> exact Base64Url.dot_not_mem_encode _
  · exact List.cons_ne_nil _ _

/-! ## Lifetimes -/

variable {hours now : Int64}

theorem toNat_expiryOf_of_fits (epoch : 0 ≤ lastSecond hours now)
    (fits : lastSecond hours now ≤ Int64.maxValue.toInt) :
    ((expiryOf hours now).toNat : Int) = lastSecond hours now := by
  have small : lastSecond hours now < UInt64.size := Int.lt_of_le_of_lt fits (by decide)
  rw [toNat_expiryOf, Int.emod_eq_of_lt epoch small]

/-- Counted in the width of the claims, the lifetime is right also where the clock stands before the
epoch. -/
theorem toNat_expiryOf_sub (epoch : 0 ≤ lastSecond hours now)
    (fits : lastSecond hours now ≤ Int64.maxValue.toInt) (later : 0 ≤ hours.toInt) :
    ((expiryOf hours now - now.toUInt64).toNat : Int) = 3600 * hours.toInt := by
  have expiry := toNat_expiryOf_of_fits epoch fits
  have issued : (now.toUInt64.toNat : Int) = now.toInt % 2 ^ 64 := toNat_toUInt64 now
  have least := now.le_toInt
  have most := now.toInt_lt
  have small := now.toUInt64.toNat_lt
  have largest : Int64.maxValue.toInt = 2 ^ 63 - 1 := by decide
  rw [UInt64.toNat_sub]
  rw [lastSecond] at expiry epoch fits
  simp only [Nat.reducePow, Int.reducePow, Int.reduceNeg] at *
  omega

/-- Whoever a token is issued to, the token has three parts, is good at the second it was issued,
and tells of that very principal. -/
theorem issued_tokens_tell_their_bearers (reading : Reading) (secret : String)
    (principal : Principal) (hours now : Int64) (epoch : 0 ≤ lastSecond hours now)
    (fits : lastSecond hours now ≤ Int64.maxValue.toInt)
    (live : now.toInt - 60 ≤ lastSecond hours now) :
    let token := issue secret principal hours now
    (token.toList.splitOn '.').length = 3 ∧
    ∃ claims, check reading secret token now.toInt = .ok claims ∧
      claims.principal? = some principal ∧
      ((claims.expiry - claims.issuedAt).toNat : Int) = 3600 * hours.toInt ∧
      (0 ≤ now.toInt →
        (claims.expiry.toNat : Int) - claims.issuedAt.toNat = 3600 * hours.toInt) := by
  intro token
  have expiry := toNat_expiryOf_of_fits epoch fits
  have later : 0 ≤ hours.toInt := by
    rw [lastSecond] at live
    omega
  refine ⟨?_, .ofPrincipal principal now.toUInt64 (expiryOf hours now), ?_, ?_, ?_, ?_⟩
  · have parts := splitOn_signedToken secret (Utf8.encode TokenHeader.issued)
      (Utf8.encode (Wire.claims.write (.ofPrincipal principal now.toUInt64 (expiryOf hours now))))
    exact congrArg List.length parts
  · have good : now.toInt ≤ lastSecond hours now % UInt64.size + leeway := by
      rw [← toNat_expiryOf, expiry, leeway]
      omega
    rw [check_issue, if_pos good]
  · exact Claims.principal?_ofPrincipal principal _ _
  · exact toNat_expiryOf_sub epoch fits later
  · intro started
    have issued : (now.toUInt64.toNat : Int) = now.toInt % 2 ^ 64 := toNat_toUInt64 now
    have most := now.toInt_lt
    change ((expiryOf hours now).toNat : Int) - now.toUInt64.toNat = _
    rw [expiry, issued, lastSecond]
    omega

/-- The lowest id, a name that has to be escaped, a secret of no length and a lifetime of none. -/
theorem escaped_name_comes_back :
    let bearer : Principal := ⟨Int64.minValue, "\"\\\n😀\u0000", .admin⟩
    0 ≤ lastSecond 0 1767225600 ∧ lastSecond 0 1767225600 ≤ Int64.maxValue.toInt ∧
      1767225600 - 60 ≤ lastSecond 0 1767225600 ∧
      ((issue "" bearer 0 1767225600).toList.splitOn '.').length = 3 ∧
      ∃ claims, check .standard "" (issue "" bearer 0 1767225600) 1767225600 = .ok claims ∧
        claims.principal? = some bearer ∧ claims.expiry.toNat = claims.issuedAt.toNat := by
  intro bearer
  have epoch : 0 ≤ lastSecond 0 1767225600 := by decide
  have fits : lastSecond 0 1767225600 ≤ Int64.maxValue.toInt := by decide
  have live : (1767225600 : Int64).toInt - 60 ≤ lastSecond 0 1767225600 := by decide
  rcases issued_tokens_tell_their_bearers .standard "" bearer 0 1767225600 epoch fits live with
    ⟨parts, claims, good, tells, -, lifetime⟩
  refine ⟨epoch, fits, live, parts, claims, good, tells, ?_⟩
  have none := lifetime (by decide)
  rw [Int64.toInt_zero] at none
  omega

end Token

end Tenancy
