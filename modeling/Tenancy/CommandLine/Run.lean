import Tenancy.CommandLine.Host
import Tenancy.CommandLine.Invocation
import Tenancy.Database.Connection
import Tenancy.Settings.Load
import Tenancy.Settings.LogFilter
import Tenancy.Settings.Sample
import Tenancy.Settings.Validation
import Tenancy.Token.Bearer

/-! Runs of the program, from its words to what it prints and how it ends. -/

namespace Tenancy.CommandLine

open Tenancy.Files

/-- What a run finds when it starts. -/
structure Machine where
  files : Tree
  environment : Settings.Environment
  now : Instant

structure Ending where
  /-- `none` while the server goes on running. -/
  exit : Option Nat
  output : String
  errors : String
  deriving DecidableEq, Repr

namespace Ending

def printed (output : String) : Ending := ⟨some 0, output, ""⟩

def failed (message : String) : Ending := ⟨some 1, "", "Error: " ++ message ++ "\n"⟩

def serving : Ending := ⟨none, "", ""⟩

def misused (page : Page) (misuse : Misuse) : Ending :=
  ⟨some 2, "", "error: " ++ misuse.text ++ "\n\n" ++ page.usage ++
    "\n\nFor more information, try '--help'.\n"⟩

def ofResult : Except String Ending → Ending
  | .ok ending => ending
  | .error message => failed message

end Ending

namespace Machine

/-! ## Settings and log -/

def settings (machine : Machine) : Except String Settings := do
  let settings ← (Settings.load machine.files machine.environment).mapError SettingsError.message
  settings.validate.mapError SettingsError.message
  pure settings

/-- The variable whose filter is used where it is one. -/
def filterVariable : String := "RUST_LOG"

def logFilter (machine : Machine) (plan : LogPlan) :
    Except String (List LogFilter.Directive) :=
  match (machine.environment filterVariable).map LogFilter.parse with
  | some (.ok directives) => .ok directives
  | some (.error _) | none => (LogFilter.parse plan.level).mapError LogFilter.Fault.text

/-- Makes the directory of the log files. -/
def openLog (machine : Machine) (plan : LogPlan) : Except String Tree := do
  let _ ← machine.logFilter plan
  match plan.directory with
  | none => pure machine.files
  | some directory => (machine.files.makeDirectories directory).mapError Fault.text

/-! ## The database -/

/-- The first user there is, where there are none. -/
def administrator (settings : Settings) : Principal := ⟨1, settings.auth.firstAdmin, .admin⟩

def seed (connection : Database.Connection) (files : Tree) (settings : Settings) :
    Except String (Database.Connection × Tree) := do
  let count ← (connection.countUsers files).mapError StoreError.message
  if count ≠ 0 then pure (connection, files)
  else
    let (outcome, connection, files) := connection.addUser files (administrator settings)
    outcome.mapError StoreError.message
    pure (connection, files)

def openDatabase (files : Tree) (settings : Settings) :
    Except String (Database.Connection × Tree) := do
  let (connected, files) :=
    Database.connect files settings.database.url settings.database.maxConnections
  let connection ← connected.mapError SystemError.message
  let (outcome, connection, files) := connection.migrate files
  outcome.mapError SystemError.message
  seed connection files settings

/-! ## Commands -/

def bindingFailure (settings : Settings) : String :=
  "Failed to bind " ++ settings.server.host ++ ":" ++
    Text.decimal settings.server.port.toNat

def serve (machine : Machine) : Except String Ending := do
  let settings ← machine.settings
  let files ← machine.openLog settings.logging.plan
  let _ ← openDatabase files settings
  if Host.isKnown settings.server.host then pure .serving else throw (bindingFailure settings)

def issueToken (machine : Machine) (id : Int64) : Except String Ending := do
  let settings ← machine.settings
  let (connection, files) ← openDatabase machine.files settings
  match ← (connection.findUser files id).mapError StoreError.message with
  | none => throw ("User " ++ Text.decimal id.toInt ++ " not found")
  | some user =>
      let token := Token.issue settings.auth.secret user settings.auth.tokenHours
        (.ofInt machine.now.seconds)
      pure (.printed (token ++ "\n"))

def perform (machine : Machine) : Command → Ending
  | .serve => .ofResult machine.serve
  | .sampleConfig => .printed Settings.sample
  | .issueToken user => .ofResult (machine.issueToken user)

def run (machine : Machine) (words : List String) : Ending :=
  match invocation words with
  | .run command => machine.perform command
  | .showHelp page => .printed page.text
  | .showVersion page => .printed (page.versionLine ++ "\n")
  | .misused page misuse => .misused page misuse

end Machine

end Tenancy.CommandLine
