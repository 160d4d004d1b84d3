import Tenancy.Error

/-! What can go wrong with a cluster that is reached through its API server. -/

namespace Tenancy

inductive ClusterFault where
  | clusterNotFound (cluster : Int64)
  /-- The API server refused, or there was no asking it. -/
  | api (text : String)
  | invalidKubeconfig (text : String)
  | timeout (cluster : Int64) (seconds : UInt64)
  deriving DecidableEq, Repr

namespace ClusterFault

def message : ClusterFault → String
  | clusterNotFound cluster => "Cluster not found: " ++ Text.decimal cluster.toInt
  | api text => "Kubernetes API error: " ++ text
  | invalidKubeconfig text => "Invalid kubeconfig: " ++ text
  | timeout cluster seconds =>
      "Cluster " ++ Text.decimal cluster.toInt ++ " timed out after "
        ++ Text.decimal seconds.toNat ++ "s"

/-- A failed look at a cluster. -/
def toLookup (asked : Int64) : ClusterFault → GatewayError
  | clusterNotFound cluster => .clusterNotFound cluster
  | fault => .unreachable asked fault.message

/-- A failed create on a cluster. -/
def toCreate : ClusterFault → GatewayError
  | clusterNotFound cluster => .clusterNotFound cluster
  | fault => .createFailed fault.message

end ClusterFault

end Tenancy
