import Tenancy.Cluster.Decode
import Tenancy.Files.Tree
import Tenancy.Text.Quoted

/-! A client of the API server of one cluster. -/

namespace Tenancy

namespace Kubeconfig

/-- A maker of clients. It makes out where the requests in a context of a kubeconfig go, and then
whether there is a client to send them. -/
structure Connector where
  configure (directory : String) (config : Kubeconfig) (asked : Option String) :
    Except String Location
  connect (directory : String) (config : Kubeconfig) (asked : Option String) : Except String Unit

def destination (connector : Connector) (directory : String) (config : Kubeconfig)
    (asked : Option String) : Except KubeconfigFault Location := do
  let location ← (connector.configure directory config asked).mapError .unusable
  (connector.connect directory config asked).mapError .noClient
  pure location

end Kubeconfig

structure Client where
  code : Int64
  name : String
  /-- The URL that is reported for the server. -/
  apiServer : String
  /-- Where the requests go. -/
  destination : Location
  deriving DecidableEq, Repr

namespace Client

open Tenancy.Files

def ofKubeconfig (connector : Kubeconfig.Connector) (directory : String) (config : Kubeconfig)
    (asked : Option String) (code : Int64) (name : String) : Except ClusterFault Client := do
  let apiServer ← (config.apiServer asked).mapError KubeconfigFault.toCluster
  let destination ←
    (config.destination connector directory asked).mapError KubeconfigFault.toCluster
  pure ⟨code, name, apiServer, destination⟩

def ofText (connector : Kubeconfig.Connector) (text : String) (asked : Option String)
    (code : Int64) (name : String) : Except ClusterFault Client := do
  let config ← (Kubeconfig.parse text).mapError KubeconfigFault.toCluster
  ofKubeconfig connector "" config asked code name

def readKubeconfig (files : Tree) (path : String) : Except KubeconfigFault Kubeconfig :=
  match files.readText path with
  | .error fault => .error (.unreadable path fault.text)
  | .ok text => (Kubeconfig.parse text).mapError fun fault => .unreadable path fault.text

def ofFile (connector : Kubeconfig.Connector) (files : Tree) (path : String)
    (asked : Option String) (code : Int64) (name : String) : Except ClusterFault Client := do
  let config ← (readKubeconfig files path).mapError KubeconfigFault.toCluster
  ofKubeconfig connector ((Path.parent? path).getD "") config asked code name

/-- The client as it is shown in messages. -/
def describe (client : Client) : String :=
  "K8sClient \x7b cluster_code: " ++ Text.decimal client.code.toInt ++ ", cluster_name: "
    ++ Text.Quoted.text client.name ++ ", api_server: " ++ Text.Quoted.text client.apiServer
    ++ " \x7d"

end Client

end Tenancy
