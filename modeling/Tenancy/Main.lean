import Std.Time.DateTime.Timestamp
import Tenancy.CommandLine.Run

/-! The program. Settings come from the files and variables of the machine; databases and log
directories live as long as the run. -/

namespace Tenancy.CommandLine

open Tenancy.Files

/-! ## What the run finds -/

def variableNames : List String :=
  [Machine.filterVariable, Settings.fileVariable] ++ Settings.Variable.all.map (·.name)

def readEnvironment : IO Settings.Environment := do
  let values ← variableNames.filterMapM fun name => do
    return (← IO.getEnv name).map (name, ·)
  return fun name => values.lookup name

/-- What cannot be read but is there counts as a directory. -/
def readNode? (path : String) : IO (Option Node) := do
  try
    return some (.file (← IO.FS.readBinFile path).toList)
  catch
    | .noFileOrDirectory .. => return none
    | _ => return some .directory

/-- Puts a node at a path, under the directories on the way to it. -/
def withNode (files : Tree) (path : String) (node : Node) : Tree :=
  let parsed := Path.parse path
  let names := parsed.names.filter (· ≠ ".")
  let place := if parsed.absolute then names else files.here ++ names
  let above := (List.range place.length).tail.map place.take
  (above.foldl (fun files place => files.put place .directory) files).put place node

def readFiles (environment : Settings.Environment) : IO Tree :=
  (Settings.filePaths environment).foldlM
    (fun files path => do
      match ← readNode? path with
      | some node => return withNode files path node
      | none => return files)
    ⟨[(["current"], .directory)], ["current"]⟩

def readMachine : IO Machine := do
  let environment ← readEnvironment
  let now ← Std.Time.Timestamp.now
  return ⟨← readFiles environment, environment,
    .ofStoredMillis now.toMillisecondsSinceUnixEpoch.val⟩

end Tenancy.CommandLine

def main (words : List String) : IO UInt32 := do
  let ending := (← Tenancy.CommandLine.readMachine).run words
  IO.print ending.output
  IO.eprint ending.errors
  return (ending.exit.getD 0).toUInt32
