import Tenancy.Text.Base64Url
import Tenancy.Text.Utf8
import Tenancy.Token.Header
import Tenancy.Token.Hmac
import Tenancy.Token.Reading

/-! Tokens: claims signed with a secret. A token is its header, its payload and its signature in the
URL-safe base 64, with dots between them. -/

namespace Tenancy.Token

open Tenancy.Json
open Tenancy.Text

inductive Fault where
  | notThreeParts
  | base64
  | json
  | algorithm
  | signature
  | noExpiry
  | expired
  | audience
  deriving DecidableEq, Repr

def Fault.message (fault : Fault) : String :=
  "JWT validation failed: " ++ cause fault
where
  cause : Fault → String
    | .notThreeParts => "InvalidToken"
    | .base64 => "Base64 error"
    | .json => "JSON error"
    | .algorithm => "InvalidAlgorithm"
    | .signature => "InvalidSignature"
    | .noExpiry => "Missing required claim: exp"
    | .expired => "ExpiredSignature"
    | .audience => "InvalidAudience"

/-- The signature is over the exact text of the header and the payload. -/
def sign (secret : String) (signed : List Char) : List Char :=
  Base64Url.encode (Hmac.digest (utf8 secret.toList) (utf8 signed))
where
  utf8 (text : List Char) : List UInt8 := Utf8.encode text

/-! ## Issuing -/

def encodePart (text : List Char) : List Char :=
  Base64Url.encode (Utf8.encode text)

def ofClaims (secret : String) (claims : Claims) : String :=
  let signed := encodePart TokenHeader.issued ++ '.' :: encodePart (Wire.claims.write claims)
  .ofList (signed ++ '.' :: sign secret signed)

def secondsPerHour : Int64 := 3600

/-- Times are counted in 64 bits, and a lifetime that does not fit wraps around. -/
def issue (secret : String) (principal : Principal) (hours now : Int64) : String :=
  let expiry := now + hours * secondsPerHour
  ofClaims secret (.ofPrincipal principal now.toUInt64 expiry.toUInt64)

/-! ## Checking -/

/-- The text before and after the last dot. -/
def splitLast (text : List Char) : Option (List Char × List Char) :=
  match text.reverse.span (· != '.') with
  | (_, []) => none
  | (after, _ :: before) => some (before.reverse, after.reverse)

/-- The last two dots count, so a part with a dot in it can only be the header. -/
def splitParts (text : List Char) : Option (List Char × List Char × List Char) := do
  let (signed, signature) ← splitLast text
  let (header, payload) ← splitLast signed
  some (header, payload, signature)

def decodePart (part : List Char) : Except Fault (List UInt8) :=
  match Base64Url.decode? part with
  | some bytes => .ok bytes
  | none => .error .base64

def readPart (reader : Reader α) (bytes : List UInt8) : Except Fault α :=
  (readAll reader (textOf bytes)).mapError fun _ => .json

/-- Claims in an array have no names, and without its name the expiry does not count. -/
def isRecord (bytes : List UInt8) : Bool :=
  (skipSpace (textOf bytes)).head? == some '\x7b'

/-- Expired tokens are good for another minute. -/
def leeway : Int := 60

def isExpired (claims : Claims) (now : Int) : Bool :=
  decide ((claims.expiry.toNat : Int) < now - leeway)

/-- No token is meant for an audience here. -/
def isAddressed : Option Audience → Bool
  | some .one => true
  | some (.several count) => count != 0
  | some .unclear | none => false

def check (reading : Reading) (secret token : String) (now : Int) : Except Fault Claims := do
  let some (header, payload, signature) := splitParts token.toList | throw .notThreeParts
  let algorithm ← readPart (TokenHeader.shape reading.readKey).read (← decodePart header)
  if algorithm ≠ .hs256 then throw .algorithm
  if signature ≠ sign secret (header ++ '.' :: payload) then throw .signature
  let bytes ← decodePart payload
  let claims ← readPart Wire.claims.read bytes
  if !isRecord bytes then throw .noExpiry
  let audience ← (reading.readAudience bytes).mapError fun _ => .json
  if isExpired claims now then throw .expired
  if isAddressed audience then throw .audience
  pure claims

end Tenancy.Token
