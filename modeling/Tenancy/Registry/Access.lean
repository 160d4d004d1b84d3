import Tenancy.Principal
import Tenancy.Registration

/-! Who may see a registration and who may manage it. Every listing goes by `isAuthorized`. -/

namespace Tenancy.Registry

def canManage (user : Principal) (registration : Registration) : Bool :=
  user.isAdmin || registration.owner == user.id

def isAuthorized (user : Principal) (registration : Registration) (grants : List Int64) : Bool :=
  canManage user registration || grants.contains registration.id

structure Partition where
  authorized : List Registration
  unauthorized : List Registration
  deriving DecidableEq

def Partition.of (user : Principal) (grants : List Int64) (registrations : List Registration) :
    Partition where
  authorized := registrations.filter (isAuthorized user · grants)
  unauthorized := registrations.filter (!isAuthorized user · grants)

end Tenancy.Registry
