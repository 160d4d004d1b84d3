import Tenancy.Cluster.Fault
import Tenancy.Cluster.Location

/-! What a kubeconfig says about where clusters are. A context names a cluster, and a cluster has the
URL of its API server. Names may be given more than once, and the first of each counts. -/

namespace Tenancy

structure Named (α : Type) where
  name : String
  body : Option α
  deriving DecidableEq, Repr

/-- How to reach a cluster. -/
structure ServerEntry where
  server : Option String := none
  /-- A certificate in base 64, or else the path of a file with one. -/
  certificate : Option String := none
  certificateFile : Option String := none
  proxy : Option String := none
  /-- Whatever certificate the server has is good. -/
  unverified : Option Bool := none
  verifiedName : Option String := none
  uncompressed : Option Bool := none
  deriving DecidableEq, Repr

structure ContextEntry where
  cluster : String
  user : Option String := none
  defaultNamespace : Option String := none
  deriving DecidableEq, Repr

/-- A service that gives out credentials. -/
structure Provider where
  name : String
  settings : List (String × String)
  deriving DecidableEq, Repr

/-- A command that gives out credentials. -/
structure CredentialCommand where
  version : Option String
  command : Option String
  arguments : List String
  environment : List (List (String × String))
  hint : Option String
  mode : Option String
  tellsCluster : Option Bool
  deriving DecidableEq, Repr

/-- The credentials of a user. -/
structure UserEntry where
  username : Option String := none
  password : Option String := none
  token : Option String := none
  tokenFile : Option String := none
  certificate : Option String := none
  certificateFile : Option String := none
  key : Option String := none
  keyFile : Option String := none
  /-- The user and the groups to act for. -/
  subject : Option String := none
  groups : List String := []
  provider : Option Provider := none
  command : Option CredentialCommand := none
  deriving DecidableEq, Repr

structure Kubeconfig where
  clusters : List (Named ServerEntry)
  users : List (Named UserEntry)
  contexts : List (Named ContextEntry)
  currentContext : Option String
  kind : Option String
  version : Option String
  deriving DecidableEq, Repr

inductive KubeconfigFault where
  | unreadable (path cause : String)
  | malformed (cause : String)
  | noContext
  | unknownContext (name : String)
  | noClusterReference
  | unknownCluster (name : String)
  | noServer
  /-- The server cannot be used as it is given. -/
  | unusable (cause : String)
  /-- There are no requests to the server. -/
  | noClient (cause : String)
  deriving DecidableEq, Repr

namespace KubeconfigFault

def text : KubeconfigFault → String
  | unreadable path cause => "Failed to read " ++ path ++ ": " ++ cause
  | malformed cause => "Failed to parse kubeconfig: " ++ cause
  | noContext => "No context specified and no current-context"
  | unknownContext name => "Context '" ++ name ++ "' not found"
  | noClusterReference => "Context has no cluster reference"
  | unknownCluster name => "Cluster '" ++ name ++ "' not found"
  | noServer => "Cluster has no server URL"
  | unusable cause => "Failed to create config: " ++ cause
  | noClient cause => "Failed to create client: " ++ cause

def toCluster (fault : KubeconfigFault) : ClusterFault :=
  .invalidKubeconfig fault.text

end KubeconfigFault

namespace Kubeconfig

def empty : Kubeconfig := ⟨[], [], [], none, none, none⟩

def named? (entries : List (Named α)) (name : String) : Option (Named α) :=
  entries.find? (·.name == name)

/-! ## The server of a context -/

/-- The context asked for, or else the current one. -/
def contextName? (config : Kubeconfig) (asked : Option String) : Option String :=
  asked.or config.currentContext

/-- The URL of the API server, or the first link on the way to it that is missing. -/
def apiServer (config : Kubeconfig) (asked : Option String) : Except KubeconfigFault String := do
  let some name := config.contextName? asked | throw .noContext
  let some context := named? config.contexts name | throw (.unknownContext name)
  let some reference := context.body | throw .noClusterReference
  let some cluster := named? config.clusters reference.cluster
    | throw (.unknownCluster reference.cluster)
  match cluster.body.bind (·.server) with
  | some server => pure server
  | none => throw .noServer

/-- The entries that a context names. A user there is no entry for has no credentials. -/
def entries? (config : Kubeconfig) (asked : Option String) : Option (ServerEntry × UserEntry) := do
  let context ← (← named? config.contexts (← config.contextName? asked)).body
  let cluster ← named? config.clusters context.cluster
  let user := (context.user.bind (named? config.users)).bind (·.body)
  some (← cluster.body, user.getD {})

/-! ## Several documents

A later document adds to the ones before it, and changes nothing they say. -/

def addNew (entries added : List (Named α)) : List (Named α) :=
  entries ++ added.filter fun entry => (named? entries entry.name).isNone

def disagree (first second : Option String) : Bool :=
  first.isSome && second.isSome && first != second

def merge (config next : Kubeconfig) : Except KubeconfigFault Kubeconfig :=
  if disagree config.kind next.kind || disagree config.version next.version then
    .error (.malformed "the documents are of different kinds")
  else .ok {
    clusters := addNew config.clusters next.clusters
    users := addNew config.users next.users
    contexts := addNew config.contexts next.contexts
    currentContext := config.currentContext.or next.currentContext
    kind := config.kind.or next.kind
    version := config.version.or next.version }

end Kubeconfig

end Tenancy
