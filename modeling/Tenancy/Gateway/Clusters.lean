import Tenancy.World

/-! Clusters kept in memory: which there are, the names present on them, and how often a create was
asked for. -/

namespace Tenancy

structure Clusters where
  known : List Int64
  present : List (Int64 × String)
  createCalls : Nat
  /-- The next create is refused, whichever it is. -/
  failNext : Bool
  deriving DecidableEq, Repr

namespace Clusters

def withCodes (codes : List Int64) : Clusters := ⟨codes, [], 0, false⟩

/-- Puts a name on a cluster from outside; the cluster becomes known if it was not. -/
def seed (clusters : Clusters) (cluster : Int64) (name : String) : Clusters :=
  { clusters with
    known := if cluster ∈ clusters.known then clusters.known else clusters.known ++ [cluster]
    present := if (cluster, name) ∈ clusters.present then clusters.present
      else clusters.present ++ [(cluster, name)] }

def failNextCreate (clusters : Clusters) : Clusters :=
  { clusters with failNext := true }

def isPresent (clusters : Clusters) (cluster : Int64) (name : String) : Except GatewayError Bool :=
  if cluster ∈ clusters.known then .ok (decide ((cluster, name) ∈ clusters.present))
  else .error (.clusterNotFound cluster)

/-- Every request counts, the refused ones included. -/
def create (clusters : Clusters) (cluster : Int64) (name : String) :
    Except GatewayError Unit × Clusters :=
  let counted := { clusters with createCalls := clusters.createCalls + 1, failNext := false }
  if clusters.failNext then
    (.error (.createFailed ("cluster " ++ Text.decimal cluster.toInt ++ " rejected namespace " ++ name)),
      counted)
  else if cluster ∈ clusters.known then (.ok (), counted.seed cluster name)
  else (.error (.clusterNotFound cluster), counted)

instance : Gateway Clusters where
  isPresent clusters cluster name := (clusters.isPresent cluster name, clusters)
  create := create

end Clusters

end Tenancy
