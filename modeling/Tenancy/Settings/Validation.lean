import Tenancy.Settings.Types
import Tenancy.Text.Blank
import Tenancy.Text.Decimal

/-! Settings the service can run with. The checks are made in a fixed order, and the first that fails
is reported. -/

namespace Tenancy.Settings

def minSecretLength : Nat := 32

def rotations : List String := ["hourly", "daily", "never"]

/-- The first code that an earlier cluster has already. -/
def duplicateCode? (seen : List Int64) : List ClusterSettings → Option Int64
  | [] => none
  | cluster :: rest =>
      if cluster.code ∈ seen then some cluster.code else duplicateCode? (cluster.code :: seen) rest

/-- What is wrong with the settings, if anything is. -/
def fault? (settings : Settings) : Option String :=
  if settings.server.port = 0 then some "Port cannot be 0"
  else if settings.database.url = "" then some "Database URL cannot be empty"
  else if settings.database.maxConnections = 0 then
    some "Database max_connections must be at least 1"
  else if settings.logging.rotation ∉ rotations then
    some ("Unknown log rotation '" ++ settings.logging.rotation ++ "'")
  else if Text.byteLength settings.auth.secret < minSecretLength then
    some ("JWT secret must be at least " ++ toString minSecretLength ++ " bytes")
  else if settings.auth.tokenHours ≤ 0 then some "Token TTL must be positive"
  else if settings.registry.maxPageSize = 0 then some "max_page_size must be at least 1"
  else if settings.kubernetes.timeoutSeconds = 0 then
    some "Kubernetes request timeout must be at least 1 second"
  else
    (duplicateCode? [] settings.kubernetes.clusters).map fun code =>
      "Duplicate cluster code " ++ Text.decimal code.toInt

def validate (settings : Settings) : Except SettingsError Unit :=
  match settings.fault? with
  | some text => .error (.invalid text)
  | none => .ok ()

end Tenancy.Settings
