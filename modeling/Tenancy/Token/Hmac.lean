import Tenancy.Token.Sha256

/-! Keyed digests: HMAC with SHA-256, as RFC 2104 defines it. -/

namespace Tenancy.Hmac

/-- A key longer than a block is digested first; a shorter one is filled up with zeros. -/
def blockKey (key : List UInt8) : List UInt8 :=
  let key := if Sha256.blockSize < key.length then Sha256.digest key else key
  key ++ List.replicate (Sha256.blockSize - key.length) 0

def digest (key message : List UInt8) : List UInt8 :=
  let key := blockKey key
  Sha256.digest (key.map (· ^^^ 0x5c) ++ Sha256.digest (key.map (· ^^^ 0x36) ++ message))

end Tenancy.Hmac
