import Tenancy.Files.Tree
import Tenancy.Settings.Decode
import Tenancy.Settings.Environment

/-! Where the settings come from: the first settings file there is, and the environment over it. -/

namespace Tenancy.Settings

open Tenancy.Files

def loadFile (files : Tree) (path : String) : Except SettingsError Settings :=
  match files.readText path with
  | .error fault => .error (.unreadable path fault.text)
  | .ok text => ofToml text

/-- The variable that names a settings file, and the places to look for one after it. -/
def fileVariable : String := "NSREGISTRY_CONFIG"

def filePaths (environment : Environment) : List String :=
  (environment fileVariable).toList ++
    ["/etc/nsregistry/config.toml", "./config.toml", "./nsregistry.toml"]

def file? (files : Tree) (environment : Environment) : Option String :=
  (filePaths environment).find? files.isThere

def fromFile (files : Tree) (environment : Environment) : Except SettingsError Settings :=
  match file? files environment with
  | some path => loadFile files path
  | none => .ok default

def load (files : Tree) (environment : Environment) : Except SettingsError Settings := do
  override environment (← fromFile files environment)

end Tenancy.Settings
