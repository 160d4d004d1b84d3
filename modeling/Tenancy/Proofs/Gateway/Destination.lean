import Tenancy.Proofs.Cluster.Kubeconfig
import Tenancy.Proofs.Gateway.ApiServers

/-! A client sends its requests to the server it reports, for the same entry of the kubeconfig is
found on both ways. -/

namespace Tenancy

open Tenancy.Cluster Tenancy.Files Tenancy.Kubeconfig

/-! ## Calls -/

namespace ApiServers

variable {reading : Cluster.Reading} {servers : ApiServers reading} {client : Client}
  {cluster : Int64}

/-- The calls for the cluster send their requests through the client, and to no other server. -/
structure Routed (servers : ApiServers reading) (cluster : Int64) (client : Client) : Prop where
  isPresent : ∀ name request, lookup? name = some request →
    (servers.isPresent cluster name).2 = servers.after client request
  unsent : ∀ name, lookup? name = none → (servers.isPresent cluster name).2 = servers
  create : ∀ name, (servers.create cluster name).2 = servers.after client (creation name)

theorem routed_of_client? (found : servers.client? cluster = some client) :
    servers.Routed cluster client := by
  refine ⟨fun name request asks => ?_, fun name unusable => ?_, fun name => ?_⟩
  · rw [isPresent_eq found asks]
  · simp only [isPresent, lookup, found, unusable]
  · rw [create_eq found name]

end ApiServers

/-! ## Clients -/

namespace Client

variable {connector : Connector} {files : Tree} {directory : String} {config : Kubeconfig}
  {asked : Option String} {code : Int64} {name : String} {client : Client}

theorem destination_eq_ok {location : Location} :
    config.destination connector directory asked = .ok location ↔
      connector.configure directory config asked = .ok location ∧
        connector.connect directory config asked = .ok () := by
  simp only [Kubeconfig.destination, bind_eq_ok, mapError_eq_ok]
  constructor
  · rintro ⟨_, configured, _, connected, ⟨⟩⟩
    exact ⟨configured, connected⟩
  · rintro ⟨configured, connected⟩
    exact ⟨_, configured, _, connected, rfl⟩

theorem ofKubeconfig_eq_ok_iff :
    ofKubeconfig connector directory config asked code name = .ok client ↔
      config.apiServer asked = .ok client.apiServer ∧
        config.destination connector directory asked = .ok client.destination ∧
        client.code = code ∧ client.name = name := by
  rcases client with ⟨_, _, _, _⟩
  simp only [ofKubeconfig, bind_eq_ok, mapError_eq_ok]
  constructor
  · rintro ⟨_, server, _, destination, ⟨⟩⟩
    exact ⟨server, destination, rfl, rfl⟩
  · rintro ⟨server, destination, rfl, rfl⟩
    exact ⟨_, server, _, destination, rfl⟩

/-- The client reports the server that the chosen context leads to, and uses it. -/
structure Reports (config : Kubeconfig) (asked : Option String) (client : Client) : Prop where
  leads : LeadsTo config asked client.apiServer
  destination : Location.parse? client.apiServer = some client.destination
  url : ∀ path, client.destination.url path = Location.stem client.apiServer ++ path
  routed : ∀ {reading : Cluster.Reading} (servers : ApiServers reading) cluster,
    servers.client? cluster = some client → servers.Routed cluster client

theorem reports_of_ofKubeconfig (byFirst : GoesByFirst connector)
    (built : ofKubeconfig connector directory config asked code name = .ok client) :
    Reports config asked client := by
  rcases ofKubeconfig_eq_ok_iff.mp built with ⟨reported, destination, -⟩
  rw [apiServer_eq_ok_iff] at reported
  have parsed : Location.parse? client.apiServer = some client.destination := by
    rcases byFirst _ _ _ _ (destination_eq_ok.mp destination).1 with ⟨used, leads, parsed⟩
    rw [reported.unique leads]
    exact parsed
  refine ⟨reported, parsed, Location.url_of_parse? parsed, ?_⟩
  exact fun _ _ => ApiServers.routed_of_client?

theorem reports_of_ofText (byFirst : GoesByFirst connector) {text : String}
    (built : ofText connector text asked code name = .ok client) :
    ∃ config, Kubeconfig.parse text = .ok config ∧ Reports config asked client := by
  simp only [ofText, bind_eq_ok, mapError_eq_ok] at built
  rcases built with ⟨config, parsed, built⟩
  exact ⟨config, parsed, reports_of_ofKubeconfig byFirst built⟩

theorem reports_of_ofFile (byFirst : GoesByFirst connector) {path : String}
    (built : ofFile connector files path asked code name = .ok client) :
    ∃ config, readKubeconfig files path = .ok config ∧ Reports config asked client := by
  simp only [ofFile, bind_eq_ok, mapError_eq_ok] at built
  rcases built with ⟨config, readable, built⟩
  exact ⟨config, readable, reports_of_ofKubeconfig byFirst built⟩

/-- The server is that of the first cluster named by the first context of the chosen name, or the
missing link is reported. Where a client is built, its requests go to the server it reports. -/
theorem reported_server_is_used (byFirst : GoesByFirst connector) :
    (∀ (config : Kubeconfig) asked server,
      config.apiServer asked = .ok server ↔ LeadsTo config asked server) ∧
    (∀ (config : Kubeconfig) asked fault,
      (config.apiServer asked).mapError KubeconfigFault.toCluster = .error fault ↔
        ∃ text, fault = .invalidKubeconfig text ∧ BreaksOff config asked text) ∧
    (∀ directory config asked code name client,
      ofKubeconfig connector directory config asked code name = .ok client →
        Reports config asked client) ∧
    (∀ text asked code name client, ofText connector text asked code name = .ok client →
      ∃ config, Kubeconfig.parse text = .ok config ∧ Reports config asked client) ∧
    (∀ files path asked code name client, ofFile connector files path asked code name = .ok client →
      ∃ config, readKubeconfig files path = .ok config ∧ Reports config asked client) :=
  ⟨fun _ _ _ => apiServer_eq_ok_iff, fun _ _ _ => apiServer_eq_error_iff,
    fun _ _ _ _ _ _ => reports_of_ofKubeconfig byFirst,
    fun _ _ _ _ _ => reports_of_ofText byFirst,
    fun _ _ _ _ _ _ => reports_of_ofFile byFirst⟩

/-- Of two contexts and two clusters of one name, the first of each counts, and not the current
context. -/
theorem first_of_a_repeated_name_is_used :
    let connector : Connector := .plain ⟨[], []⟩
    let server (url : String) : ServerEntry := { server := some url }
    let config : Kubeconfig := {
      clusters := [⟨"east", some (server "https://10.0.0.1:6443/base/")⟩,
        ⟨"east", some (server "https://10.0.0.2:6443")⟩, ⟨"west", some (server "https://10.0.0.3")⟩]
      users := [⟨"admin", some { token := some "abc" }⟩]
      contexts := [⟨"live", some { cluster := "west" }⟩,
        ⟨"dev", some { cluster := "east", user := some "admin" }⟩,
        ⟨"dev", some { cluster := "west" }⟩]
      currentContext := some "live"
      kind := none
      version := none }
    GoesByFirst connector ∧ ∃ client,
      ofKubeconfig connector "" config (some "dev") 7 "dev" = .ok client ∧
      client.apiServer = "https://10.0.0.1:6443/base/" ∧
      client.destination.url "/api" = "https://10.0.0.1:6443/base/api" ∧
      Reports config (some "dev") client := by
  intro connector server config
  have byFirst : GoesByFirst connector := goesByFirst_plain ⟨[], []⟩
  refine ⟨byFirst, ⟨7, "dev", "https://10.0.0.1:6443/base/",
    ⟨some "https", "10.0.0.1:6443", "/base/"⟩⟩, ?_, rfl, ?_, ?_⟩
  · decide +kernel
  · decide +kernel
  · refine (reported_server_is_used byFirst).2.2.1 "" config (some "dev") 7 "dev" _ ?_
    decide +kernel

end Client

end Tenancy
