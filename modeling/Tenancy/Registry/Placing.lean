import Tenancy.Procedure
import Tenancy.Validation
import Tenancy.Registry.Access

/-! Registering a namespace, asking whether its name is free, and de-registering it. -/

namespace Tenancy.Registry

def alreadyRegistered (name : String) (cluster : Int64) : RegistryError :=
  .conflict ("Namespace '" ++ name ++ "' is already registered on cluster "
    ++ Text.decimal cluster.toInt)

/-! ## Registering

A namespace that is not on its cluster yet is created there first. Another request may register the
same name after the lookup; the store then refuses the insert, which counts as the conflict it is. -/

def draft (caller : Principal) (name : String) (cluster : Int64) (stamp : Stamp) : Draft where
  code := stamp.code
  name := name
  cluster := cluster
  owner := caller.id
  createdAt := stamp.time

def enter (caller : Principal) (name : String) (cluster : Int64) (stamp : Stamp) :
    Attempt Registration :=
  .ask (.insert (draft caller name cluster stamp)) fun
    | .ok registration => .succeed registration
    | .error (.conflict _) => .fail (alreadyRegistered name cluster)
    | .error error => .fail error.toRegistry

def register (caller : Principal) (name : String) (cluster : Int64) (stamp : Stamp) :
    Attempt Registration :=
  match Name.check name with
  | .error fault => .fail fault.toRegistry
  | .ok () =>
      .ask (.findByPair name cluster) fun
        | .error error => .fail error.toRegistry
        | .ok (some _) => .fail (alreadyRegistered name cluster)
        | .ok none =>
            .ask (.isPresent cluster name) fun
              | .error error => .fail error.toRegistry
              | .ok true => enter caller name cluster stamp
              | .ok false =>
                  .ask (.create cluster name) fun
                    | .error error => .fail error.toRegistry
                    | .ok () => enter caller name cluster stamp

/-! Only the records count: a name that is on the cluster but not registered is free. -/

def verifyUnique (name : String) (cluster : Int64) : Attempt Bool :=
  match Name.check name with
  | .error fault => .fail fault.toRegistry
  | .ok () =>
      .ask (.findByPair name cluster) fun
        | .error error => .fail error.toRegistry
        | .ok found => .succeed found.isNone

/-! ## De-registering

Only the record goes; the cluster keeps its namespace. -/

def mayNotDelete (caller : Principal) (registration : Registration) : RegistryError :=
  .forbidden ("User " ++ caller.username ++ " may not delete namespace " ++ registration.name)

def stillInUse (registration : Registration) : RegistryError :=
  .inUse ("Namespace '" ++ registration.name ++ "' on cluster "
    ++ Text.decimal registration.cluster.toInt ++ " still has active workloads")

def deregister (caller : Principal) (id : Int64) : Attempt Unit :=
  .ask (.findById id) fun
    | .error error => .fail error.toRegistry
    | .ok none => .fail (StoreError.notFound id).toRegistry
    | .ok (some registration) =>
        if canManage caller registration then
          .ask (.hasActive id) fun
            | .error error => .fail error.toRegistry
            | .ok true => .fail (stillInUse registration)
            | .ok false =>
                .ask (.delete id) fun
                  | .error error => .fail error.toRegistry
                  | .ok () => .succeed ()
        else .fail (mayNotDelete caller registration)

end Tenancy.Registry
