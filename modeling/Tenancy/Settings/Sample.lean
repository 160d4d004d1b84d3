import Tenancy.Settings.Types
import Tenancy.Text.Decimal

/-! The text of a sample settings file: the defaults, with one cluster as an example. -/

namespace Tenancy.Settings

def sampleSettings : Settings :=
  { default with kubernetes.clusters := [⟨1, "default", "/etc/nsregistry/kubeconfig", none⟩] }

/-! The values of the sample need no escapes. -/

def textLine (key value : String) : String :=
  key ++ " = \"" ++ value ++ "\"\n"

def numberLine (key : String) (value : Int) : String :=
  key ++ " = " ++ Text.decimal value ++ "\n"

def truthLine (key : String) (value : Bool) : String :=
  key ++ " = " ++ (if value then "true" else "false") ++ "\n"

def optionalLine (key : String) : Option String → String
  | some value => textLine key value
  | none => ""

def clusterText (cluster : ClusterSettings) : String :=
  "\n[[kubernetes.clusters]]\n" ++ numberLine "code" cluster.code.toInt ++
    textLine "name" cluster.name ++ textLine "kubeconfig" cluster.kubeconfig ++
    optionalLine "context" cluster.context

def render (settings : Settings) : String :=
  "[server]\n" ++ textLine "host" settings.server.host ++
    numberLine "port" settings.server.port.toNat ++
    "\n[database]\n" ++ textLine "url" settings.database.url ++
    numberLine "max_connections" settings.database.maxConnections.toNat ++
    "\n[logging]\n" ++ textLine "level" settings.logging.level ++
    optionalLine "log_dir" settings.logging.directory ++
    textLine "rotation" settings.logging.rotation ++
    truthLine "json_format" settings.logging.json ++
    "\n[auth]\n" ++ textLine "jwt_secret" settings.auth.secret ++
    numberLine "token_ttl_hours" settings.auth.tokenHours.toInt ++
    textLine "bootstrap_admin" settings.auth.firstAdmin ++
    "\n[registry]\n" ++ numberLine "max_page_size" settings.registry.maxPageSize.toNat ++
    "\n[kubernetes]\n" ++
    numberLine "request_timeout_secs" settings.kubernetes.timeoutSeconds.toNat ++
    String.join (settings.kubernetes.clusters.map clusterText)

def sample : String := render sampleSettings

end Tenancy.Settings
