import Tenancy.Principal
import Tenancy.Text.Decimal

/-! What a token says about its bearer, and the principal it makes of them. -/

namespace Tenancy

/-- Times are in seconds since the epoch. -/
structure Claims where
  subject : String
  username : String
  role : String
  expiry : UInt64
  issuedAt : UInt64
  deriving DecidableEq, Repr

namespace Claims

/-- The subject must be a user id in decimal. -/
def principal? (claims : Claims) : Option Principal :=
  match Text.readInt64 claims.subject with
  | .ok id => some ⟨id, claims.username, Role.parse claims.role⟩
  | .error _ => none

def ofPrincipal (principal : Principal) (issuedAt expiry : UInt64) : Claims where
  subject := Text.decimal principal.id.toInt
  username := principal.username
  role := principal.role.name
  expiry := expiry
  issuedAt := issuedAt

end Claims

end Tenancy
