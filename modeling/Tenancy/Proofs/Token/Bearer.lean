import Mathlib.Data.List.TakeDrop
import Tenancy.Proofs.Text.Base64Url
import Tenancy.Proofs.Text.Utf8
import Tenancy.Proofs.Wire.Identity
import Tenancy.Token.Bearer

/-! A token is good for whoever holds the secret it was signed with, up to its expiry, and tells of
the claims it was made for. -/

namespace Tenancy.Token

open Tenancy.Json
open Tenancy.Text

/-! ## Parts -/

theorem splitLast_append {before after : List Char} (last : '.' ∉ after) :
    splitLast (before ++ '.' :: after) = some (before, after) := by
  have plain : ∀ character ∈ after.reverse, (character != '.') = true := by
    intro character member
    rw [bne_iff_ne]
    rintro rfl
    exact last (List.mem_reverse.mp member)
  rw [splitLast, List.reverse_append, List.reverse_cons, List.append_assoc, List.singleton_append,
    List.span_eq_takeWhile_dropWhile, List.takeWhile_append_of_pos plain,
    List.dropWhile_append_of_pos plain, List.takeWhile_cons_of_neg (by decide),
    List.dropWhile_cons_of_neg (by decide)]
  simp

theorem splitParts_append {header payload signature : List Char} (second : '.' ∉ payload)
    (third : '.' ∉ signature) :
    splitParts (header ++ '.' :: payload ++ '.' :: signature) =
      some (header, payload, signature) := by
  simp only [splitParts, splitLast_append third, splitLast_append second, Option.bind_eq_bind,
    Option.bind_some]

theorem decodePart_encode (bytes : List UInt8) :
    decodePart (Base64Url.encode bytes) = .ok bytes := by
  rw [decodePart, Base64Url.decode?_encode]

theorem readAll_of_reads {reader : Reader α} {text : List Char} {value : α}
    (reads : reader text = .ok (value, [])) : readAll reader text = .ok value := by
  rw [readAll, reads]
  rfl

theorem isRecord_eq (bytes : List UInt8) :
    isRecord bytes = decide ((skipSpace (textOf bytes)).head? = some '\x7b') :=
  Bool.beq_eq_decide_eq _ _

/-! ## Signatures -/

def signedToken (secret : String) (header payload : List UInt8) : String :=
  let signed := Base64Url.encode header ++ '.' :: Base64Url.encode payload
  .ofList (signed ++ '.' :: sign secret signed)

theorem splitParts_signedToken (secret : String) (header payload : List UInt8) :
    splitParts (signedToken secret header payload).toList =
      some (Base64Url.encode header, Base64Url.encode payload,
        sign secret (Base64Url.encode header ++ '.' :: Base64Url.encode payload)) := by
  rw [signedToken, String.toList_ofList]
  exact splitParts_append (Base64Url.dot_not_mem_encode _) (Base64Url.dot_not_mem_encode _)

/-- What is left to be found wrong with a token that is signed. -/
theorem check_signedToken {reading : Reading} {header payload : List UInt8} {claims : Claims}
    (algorithm : readAll (TokenHeader.shape reading.readKey).read (textOf header) = .ok .hs256)
    (claimed : readAll Wire.claims.read (textOf payload) = .ok claims) (secret : String)
    (now : Int) :
    check reading secret (signedToken secret header payload) now =
      if (skipSpace (textOf payload)).head? = some '\x7b' then
        match reading.readAudience payload with
        | .error _ => .error .json
        | .ok audience =>
            if isExpired claims now then .error .expired
            else if isAddressed audience then .error .audience else .ok claims
      else .error .noExpiry := by
  simp only [check, splitParts_signedToken, decodePart_encode, readPart, algorithm, claimed,
    isRecord_eq, bind, Except.bind, Except.mapError, ne_eq, not_true_eq_false, if_false]
  by_cases record : (skipSpace (textOf payload)).head? = some '\x7b'
  · simp only [record, decide_true, Bool.not_true, Bool.false_eq_true, if_false, if_true]
    cases reading.readAudience payload <;> rfl
  · simp only [record, decide_false, Bool.not_false, if_true, if_false]
    rfl

/-! ## Claims -/

theorem read_issued (readKey : Reader Unit) :
    (TokenHeader.shape readKey).read TokenHeader.issued = .ok (.hs256, []) := by
  rfl

/-- The letters of the parts, and the dots between them. -/
theorem mem_ofClaims {secret : String} {claims : Claims} {character : Char}
    (member : character ∈ (ofClaims secret claims).toList) :
    character ∈ Base64Url.alphabet ∨ character = '.' := by
  rw [ofClaims, String.toList_ofList] at member
  simp only [List.mem_append, List.mem_cons] at member
  rcases member with (header | dot | payload) | dot | signature
  · exact .inl (Base64Url.mem_alphabet_of_mem_encode header)
  · exact .inr dot
  · exact .inl (Base64Url.mem_alphabet_of_mem_encode payload)
  · exact .inr dot
  · exact .inl (Base64Url.mem_alphabet_of_mem_encode signature)

theorem check_ofClaims (reading : Reading) (secret : String) (claims : Claims) (now : Int) :
    check reading secret (ofClaims secret claims) now =
      if isExpired claims now then .error .expired else .ok claims := by
  have header : readAll (TokenHeader.shape reading.readKey).read
      (textOf (Utf8.encode TokenHeader.issued)) = .ok .hs256 := by
    rw [textOf_encode]
    exact readAll_of_reads (read_issued reading.readKey)
  have payload : readAll Wire.claims.read (textOf (Utf8.encode (Wire.claims.write claims))) =
      .ok claims := by
    rw [textOf_encode]
    exact readAll_of_reads
      (List.append_nil (Wire.claims.write claims) ▸ Wire.claims_faithful claims [])
  have record : (skipSpace (textOf (Utf8.encode (Wire.claims.write claims)))).head? =
      some '\x7b' := by
    rw [textOf_encode]
    rfl
  have signed : ofClaims secret claims = signedToken secret (Utf8.encode TokenHeader.issued)
      (Utf8.encode (Wire.claims.write claims)) := rfl
  rw [signed, check_signedToken header payload, if_pos record, reading.readAudience_claims claims]
  rfl

end Tenancy.Token
