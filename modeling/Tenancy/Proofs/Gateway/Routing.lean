import Mathlib.Data.List.Forall2
import Tenancy.Proofs.Gateway.Destination
import Tenancy.Proofs.Settings.Validation
import Tenancy.Proofs.Store.Contents

/-! The clients made of the settings. Where no code stands twice there is one for every cluster, and
the calls for a cluster go to the server of its own kubeconfig and context. -/

namespace Tenancy

open Tenancy.Files Tenancy.Kubeconfig

namespace ApiServers

variable {reading : Cluster.Reading} {connector : Connector} {files : Tree}
  {servers after : ApiServers reading} {clusters : List ClusterSettings}

/-! ## Building -/

def clientOf (connector : Connector) (files : Tree) (cluster : ClusterSettings) :
    Except ClusterFault Client :=
  Client.ofFile connector files cluster.kubeconfig cluster.context cluster.code cluster.name

theorem named_of_clientOf {cluster : ClusterSettings} {client : Client}
    (built : clientOf connector files cluster = .ok client) :
    client.code = cluster.code ∧ client.name = cluster.name := by
  simp only [clientOf, Client.ofFile, bind_eq_ok, Client.ofKubeconfig_eq_ok_iff] at built
  rcases built with ⟨_, -, -, -, named⟩
  exact named

/-- The clients are those of the clusters, in order. -/
abbrev Built (connector : Connector) (files : Tree) :
    List ClusterSettings → List Client → Prop :=
  List.Forall₂ fun cluster client => clientOf connector files cluster = .ok client

theorem Built.codes {clients : List Client} (built : Built connector files clusters clients) :
    clients.map (·.code) = clusters.map (·.code) := by
  induction built with
  | nil => rfl
  | cons first _ induction => rw [List.map_cons, List.map_cons, induction, (named_of_clientOf first).1]

end ApiServers

end Tenancy
