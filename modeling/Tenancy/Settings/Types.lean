import Tenancy.Text.Quoted

/-! The settings of the service, and what they are where nothing sets them. -/

namespace Tenancy

structure ServerSettings where
  host : String
  port : UInt16
  deriving DecidableEq, Repr

structure DatabaseSettings where
  url : String
  maxConnections : UInt32
  deriving DecidableEq, Repr

structure LogSettings where
  level : String
  /-- Where log files go; without it the log goes to the console only. -/
  directory : Option String
  rotation : String
  json : Bool
  deriving DecidableEq, Repr

structure AuthSettings where
  secret : String
  tokenHours : Int64
  /-- The name of the administrator put into an empty table of users. -/
  firstAdmin : String
  deriving DecidableEq, Repr

structure RegistrySettings where
  maxPageSize : UInt32
  deriving DecidableEq, Repr

structure ClusterSettings where
  code : Int64
  name : String
  kubeconfig : String
  context : Option String
  deriving DecidableEq, Repr

structure GatewaySettings where
  timeoutSeconds : UInt64
  clusters : List ClusterSettings
  deriving DecidableEq, Repr

structure Settings where
  server : ServerSettings
  database : DatabaseSettings
  logging : LogSettings
  auth : AuthSettings
  registry : RegistrySettings
  kubernetes : GatewaySettings
  deriving DecidableEq, Repr

namespace Settings

/-- The secret used where none is set. Whoever knows it can forge tokens. -/
def defaultSecret : String := "nsregistry-default-jwt-secret-change-in-production"

def default : Settings where
  server := ⟨"0.0.0.0", 12345⟩
  database := ⟨"sqlite:///var/lib/nsregistry/nsregistry.db", 10⟩
  logging := ⟨"info", none, "daily", false⟩
  auth := ⟨defaultSecret, 24, "admin"⟩
  registry := ⟨1000⟩
  kubernetes := ⟨10, []⟩

def usesDefaultSecret (settings : Settings) : Bool :=
  settings.auth.secret == defaultSecret

end Settings

inductive SettingsError where
  /-- The path, and the cause in the words of the operating system. -/
  | unreadable (path cause : String)
  | malformed
  | invalid (text : String)
  deriving DecidableEq, Repr

def SettingsError.message : SettingsError → String
  | unreadable path cause =>
      "Failed to read config file " ++ Text.Quoted.path path ++ ": " ++ cause
  | malformed => "Failed to parse config"
  | invalid text => "Config validation failed: " ++ text

/-! ## Log rotation -/

inductive LogRotation where
  | hourly
  | daily
  | never
  deriving DecidableEq, Repr

/-- A name that is none of the three counts as daily. -/
def LogRotation.parse : String → LogRotation
  | "hourly" => hourly
  | "never" => never
  | _ => daily

/-- The log settings as they are used. -/
structure LogPlan where
  level : String
  directory : Option String
  rotation : LogRotation
  json : Bool
  deriving DecidableEq, Repr

def LogSettings.plan (settings : LogSettings) : LogPlan :=
  ⟨settings.level, settings.directory, .parse settings.rotation, settings.json⟩

end Tenancy
