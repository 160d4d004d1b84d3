import Tenancy.Instant

/-! Namespaces registered against a cluster, and the drafts they are made from. -/

namespace Tenancy

/-- A registration before a store has given it an id. -/
structure Draft where
  code : Int64
  name : String
  cluster : Int64
  owner : Int64
  createdAt : Instant
  deriving DecidableEq

structure Registration where
  id : Int64
  /-- An opaque number given to the namespace when it was registered. -/
  code : Int64
  name : String
  cluster : Int64
  owner : Int64
  createdAt : Instant
  updatedAt : Instant
  deriving DecidableEq

namespace Registration

/-- A namespace is registered at most once under its name and cluster. -/
def isFor (registration : Registration) (name : String) (cluster : Int64) : Bool :=
  registration.name == name && registration.cluster == cluster

def pair (registration : Registration) : String × Int64 :=
  (registration.name, registration.cluster)

end Registration

namespace Draft

def enter (draft : Draft) (id : Int64) : Registration where
  id := id
  code := draft.code
  name := draft.name
  cluster := draft.cluster
  owner := draft.owner
  createdAt := draft.createdAt
  updatedAt := draft.createdAt

end Draft

/-! ## Codes and stamps

A registration is stamped with a code and the time. The code holds the milliseconds since the epoch
above twelve random bits. -/

namespace Code

def saltBits : UInt16 := 0xFFF

def generate (millis : Int64) (salt : UInt16) : Int64 :=
  (millis <<< 12) ||| ((salt &&& saltBits).toUInt64.toInt64)

example : generate 1 0xFFFF = 0x1FFF := by decide

end Code

structure Stamp where
  code : Int64
  time : Instant

namespace Stamp

def draw (time : Instant) (salt : UInt16) : Stamp :=
  ⟨Code.generate (.ofInt time.millis) salt, time⟩

end Stamp

end Tenancy
