import Tenancy.Settings.Types
import Tenancy.Text.Blank
import Tenancy.Text.Decimal

/-! Variables of the environment that take precedence over the settings of a file. -/

namespace Tenancy.Settings

open Tenancy.Text

/-- The value of a variable, if it is set. -/
abbrev Environment := String → Option String

inductive Variable where
  | host
  | port
  | databaseUrl
  | maxConnections
  | logLevel
  | logDirectory
  | logJson
  | secret
  | tokenHours
  | maxPageSize
  | clusterTimeout
  deriving DecidableEq, Repr

namespace Variable

def name : Variable → String
  | host => "NSREGISTRY_HOST"
  | port => "NSREGISTRY_PORT"
  | databaseUrl => "NSREGISTRY_DATABASE_URL"
  | maxConnections => "NSREGISTRY_DATABASE_MAX_CONNECTIONS"
  | logLevel => "NSREGISTRY_LOG_LEVEL"
  | logDirectory => "NSREGISTRY_LOG_DIR"
  | logJson => "NSREGISTRY_LOG_JSON"
  | secret => "NSREGISTRY_JWT_SECRET"
  | tokenHours => "NSREGISTRY_TOKEN_TTL_HOURS"
  | maxPageSize => "NSREGISTRY_MAX_PAGE_SIZE"
  | clusterTimeout => "NSREGISTRY_K8S_TIMEOUT_SECS"

/-- In the order in which they take effect. -/
def all : List Variable :=
  [host, port, databaseUrl, maxConnections, logLevel, logDirectory, logJson, secret, tokenHours,
    maxPageSize, clusterTimeout]

/-- White space around a value does not count, but a report quotes the value with it. -/
def parsed (key : Variable) (read : String → Option α) (value : String) :
    Except SettingsError α :=
  match read (.ofList (trim value.toList)) with
  | some parsed => .ok parsed
  | none => .error (.invalid ("Invalid value for " ++ key.name ++ ": '" ++ value ++ "'"))

def truth? (text : String) : Option Bool :=
  if text = "true" then some true
  else if text = "false" then some false
  else none

def apply (key : Variable) (value : String) (settings : Settings) :
    Except SettingsError Settings := do
  match key with
  | host => pure { settings with server.host := value }
  | port =>
      let port ← key.parsed (readUInt16 · |>.toOption) value
      pure { settings with server.port := port }
  | databaseUrl => pure { settings with database.url := value }
  | maxConnections =>
      let count ← key.parsed (readUInt32 · |>.toOption) value
      pure { settings with database.maxConnections := count }
  | logLevel => pure { settings with logging.level := value }
  | logDirectory => pure { settings with logging.directory := some value }
  | logJson =>
      let json ← key.parsed truth? value
      pure { settings with logging.json := json }
  | secret => pure { settings with auth.secret := value }
  | tokenHours =>
      let hours ← key.parsed (readInt64 · |>.toOption) value
      pure { settings with auth.tokenHours := hours }
  | maxPageSize =>
      let size ← key.parsed (readUInt32 · |>.toOption) value
      pure { settings with registry.maxPageSize := size }
  | clusterTimeout =>
      let seconds ← key.parsed (readUInt64 · |>.toOption) value
      pure { settings with kubernetes.timeoutSeconds := seconds }

/-- A variable that is not set leaves the settings as they are. -/
def override (environment : Environment) (settings : Settings) (key : Variable) :
    Except SettingsError Settings :=
  match environment key.name with
  | none => .ok settings
  | some value => key.apply value settings

end Variable

/-- The first variable with a bad value is reported. -/
def override (environment : Environment) (settings : Settings) : Except SettingsError Settings :=
  Variable.all.foldlM (Variable.override environment) settings

end Tenancy.Settings
