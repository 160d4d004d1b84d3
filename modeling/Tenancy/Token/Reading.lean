import Tenancy.Json.Reader
import Tenancy.Wire.Identity

/-! The parts of a token that are read by the rules of others: a key in its header, and the members
of its payload that its claims have no place for. -/

namespace Tenancy.Token

open Tenancy.Json
open Tenancy.Text

inductive Audience where
  | one
  | several (count : Nat)
  /-- Not a text or a list of texts. -/
  | unclear
  deriving DecidableEq, Repr

/-- A way to read these parts. A payload is read once more from its first byte, and where that goes
wrong the token is refused. -/
structure Reading where
  readKey : Reader Unit
  readAudience : List UInt8 → Except Json.Fault (Option Audience)
  /-- Claims by themselves are for no audience. -/
  readAudience_claims (claims : Claims) :
    readAudience (Utf8.encode (Wire.claims.write claims)) = .ok none

end Tenancy.Token
