import Tenancy.Cluster.Client
import Tenancy.Cluster.Exchange
import Tenancy.Settings.Types
import Tenancy.World

/-! Clusters reached through their API servers, with a way to read what they answer. What the servers
are going to reply is part of the state, and so are the requests that got to them. -/

namespace Tenancy

open Tenancy.Cluster

structure SentRequest where
  cluster : Int64
  url : String
  request : Request
  deriving DecidableEq, Repr

structure ApiServers (reading : Reading) where
  /-- At most one for each code. -/
  clients : List Client
  /-- How long a request may take, in milliseconds. -/
  timeout : Nat
  /-- The replies to come, in order. Beyond them no server is reached. -/
  pending : List Reply
  sent : List SentRequest
  deriving DecidableEq, Repr

namespace ApiServers

variable {reading : Reading}

def withTimeout (timeout : Nat) : ApiServers reading := ⟨[], timeout, [], []⟩

/-- Takes the place of the client there is for the code. -/
def add (servers : ApiServers reading) (client : Client) : ApiServers reading :=
  { servers with clients := servers.clients.filter (·.code ≠ client.code) ++ [client] }

def clusterCount (servers : ApiServers reading) : Nat := servers.clients.length

def client? (servers : ApiServers reading) (cluster : Int64) : Option Client :=
  servers.clients.find? (·.code = cluster)

/-- One client for each cluster of the settings. The first that cannot be had decides. -/
def ofSettings (connector : Kubeconfig.Connector) (files : Files.Tree)
    (settings : GatewaySettings) : Except ClusterFault (ApiServers reading) :=
  settings.clusters.foldlM
    (fun servers cluster => do
      let client ← Client.ofFile connector files cluster.kubeconfig cluster.context cluster.code
        cluster.name
      pure (servers.add client))
    (withTimeout (settings.timeoutSeconds.toNat * 1000))

/-! ## Requests -/

def seconds (servers : ApiServers reading) : UInt64 :=
  .ofNat (servers.timeout / 1000)

def record (servers : ApiServers reading) (client : Client) (request : Request) : ApiServers reading :=
  { servers with
    sent := servers.sent ++ [⟨client.code, client.destination.url request.path, request⟩] }

/-- Nothing is sent to a server there is no absolute URL for. -/
def exchange (servers : ApiServers reading) (client : Client) (request : Request) :
    Except ClusterFault Verdict × ApiServers reading :=
  if !client.destination.isAbsolute then (.error (.api noUrl), servers)
  else
    match servers.pending with
    | [] => (.error (.api noServer), servers)
    | .unreached cause :: rest => (.error (.api cause), { servers with pending := rest })
    | .silent :: rest =>
        (.error (.timeout client.code servers.seconds),
          { servers.record client request with pending := rest })
    | .answered status body :: rest =>
        (.ok (reading.judge status body), { servers.record client request with pending := rest })
where
  noUrl : String := "the URL of the server is not absolute"
  noServer : String := "the server cannot be reached"

/-! ## Looking for a namespace -/

def unreadableReply : ClusterFault := .api "the reply is no namespace"

/-- Only a refusal for this very reason says that there is no such namespace. -/
def presence : Verdict → Except ClusterFault Bool
  | .present => .ok true
  | .refused refusal =>
      if refusal.reason = "NotFound" then .ok false else .error (.api refusal.text)
  | .unreadable => .error unreadableReply

def lookup (servers : ApiServers reading) (cluster : Int64) (name : String) :
    Except ClusterFault Bool × ApiServers reading :=
  match servers.client? cluster with
  | none => (.error (.clusterNotFound cluster), servers)
  | some client =>
      match lookup? name with
      | none => (.error (.api "the name cannot be asked for"), servers)
      | some request =>
          let (outcome, servers) := servers.exchange client request
          (outcome.bind presence, servers)

/-! ## Creating a namespace -/

/-- The code of a refusal for what is there already. -/
def conflictCode : UInt16 := 409

/-- A namespace that is there already is as good as one that was created. -/
def creationResult : Verdict → Except ClusterFault Unit
  | .present => .ok ()
  | .refused refusal => if refusal.code = conflictCode then .ok () else .error (.api refusal.text)
  | .unreadable => .error unreadableReply

def createNamespace (servers : ApiServers reading) (cluster : Int64) (name : String) :
    Except ClusterFault Unit × ApiServers reading :=
  match servers.client? cluster with
  | none => (.error (.clusterNotFound cluster), servers)
  | some client =>
      let (outcome, servers) := servers.exchange client (creation name)
      (outcome.bind creationResult, servers)

/-! ## The gateway -/

def isPresent (servers : ApiServers reading) (cluster : Int64) (name : String) :
    Except GatewayError Bool × ApiServers reading :=
  let (outcome, servers) := servers.lookup cluster name
  (outcome.mapError (·.toLookup cluster), servers)

def create (servers : ApiServers reading) (cluster : Int64) (name : String) :
    Except GatewayError Unit × ApiServers reading :=
  let (outcome, servers) := servers.createNamespace cluster name
  (outcome.mapError (·.toCreate), servers)

instance : Gateway (ApiServers reading) where
  isPresent := isPresent
  create := create

end ApiServers

end Tenancy
