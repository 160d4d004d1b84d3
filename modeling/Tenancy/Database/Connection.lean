import Tenancy.Database.Directory
import Tenancy.Database.Image
import Tenancy.Database.Migration
import Tenancy.Files.Tree
import Tenancy.Text.Lowercase
import Tenancy.Text.Percent
import Tenancy.Text.Quoted

/-! Connections to databases in files and in memory. An address names the file and says how it is to
be opened. -/

namespace Tenancy.Database

open Tenancy.Files

/-! ## Addresses -/

inductive Target where
  | memory
  | file (name : String)
  deriving DecidableEq, Repr

structure Address where
  target : Target
  readOnly : Bool
  /-- A file that is missing is made. -/
  creates : Bool
  deriving DecidableEq, Repr

/-- Takes a prefix off the front of a text as often as it is there. -/
def dropPrefix (pre : List Char) : Nat → List Char → List Char
  | 0, text => text
  | bound + 1, text =>
      if pre.isPrefixOf text then dropPrefix pre bound (text.drop pre.length) else text

def withoutScheme (url : String) : List Char :=
  let text := url.toList
  dropPrefix "//".toList text.length (dropPrefix "sqlite:".toList text.length text)

def unknownValue (value key : String) : Failure :=
  .invalidAddress ("unknown value " ++ Text.Quoted.text value ++ " for `" ++ key ++ "`")

def withParameter (address : Address) (parameter : String × String) : Except Failure Address :=
  match parameter with
  | ("mode", "ro") => .ok { address with readOnly := true }
  | ("mode", "rw") => .ok address
  | ("mode", "rwc") => .ok { address with creates := true }
  | ("mode", "memory") => .ok { address with target := .memory }
  | ("mode", value) => .error (unknownValue value "mode")
  | ("cache", value) =>
      if value ∈ ["private", "shared"] then .ok address else .error (unknownValue value "cache")
  | ("immutable", value) =>
      if value ∈ ["true", "1", "false", "0"] then .ok address
      else .error (unknownValue value "immutable")
  | ("vfs", _) => .ok address
  | (key, _) =>
      .error (.invalidAddress
        ("unknown query parameter `" ++ key ++ "` while parsing connection URL"))

/-- A file without a name is kept nowhere. -/
def targetOf (name : List Char) : Except Failure Target :=
  if name = ":memory:".toList then .ok .memory
  else
    match Text.Percent.decodeStrict? name with
    | none => .error (.invalidAddress "invalid utf-8 sequence")
    | some [] => .ok .memory
    | some decoded => .ok (.file (.ofList decoded))

def Address.parse (url : String) : Except Failure Address := do
  let (name, query) := (withoutScheme url).span (· != '?')
  let address : Address := ⟨← targetOf name, false, false⟩
  (Text.Form.pairs (query.drop 1)).foldlM withParameter address

def mentions (text part : String) : Bool :=
  Text.occursIn part.toList text.toList

/-- An address that does not say how to open the file asks for it to be made. -/
def complete (url : String) : String :=
  if mentions url "?" || mentions url ":memory:" then url else url ++ "?mode=rwc"

/-! ## Opening -/

/-- A database in memory is kept with its connection. -/
structure Connection where
  place : Option Place
  memory : Database
  readOnly : Bool
  closed : Bool

/-- The directory that an address is in, taken from the text of the address as it is. -/
def directoryOf? (url : String) : Option String :=
  let scheme := "sqlite://".toList
  if scheme.isPrefixOf url.toList then Path.parent? (.ofList (url.toList.drop scheme.length))
  else none

def makeParent (files : Tree) (url : String) : Except SystemError Tree :=
  match directoryOf? url with
  | none => .ok files
  | some directory =>
      match files.makeDirectories directory with
      | .ok files => .ok files
      | .error fault => .error (.system ("Failed to create DB directory: " ++ fault.text))

def openFile (files : Tree) (name : String) (creates : Bool) : Except Failure (Place × Tree) :=
  match files.resolve name with
  | .error _ => .error .cannotOpen
  | .ok place =>
      match files.node? place with
      | some .directory => .error .cannotOpen
      | some _ => .ok (place, files)
      | none => if creates then .ok (place, files.put place (.file [])) else .error .cannotOpen

def openAddress (files : Tree) (url : String) (maxConnections : UInt32) :
    Except Failure (Connection × Tree) := do
  let address ← Address.parse url
  if maxConnections = 0 then throw .noConnectionFree
  match address.target with
  | .memory => pure (⟨none, empty, address.readOnly, false⟩, files)
  | .file name =>
      let (place, files) ← openFile files name (address.creates && !address.readOnly)
      pure (⟨some place, empty, address.readOnly, false⟩, files)

/-- Directories stay made where the opening then fails. -/
def connect (files : Tree) (url : String) (maxConnections : UInt32) :
    Except SystemError Connection × Tree :=
  match makeParent files url with
  | .error error => (.error error, files)
  | .ok files =>
      match openAddress files (complete url) maxConnections with
      | .ok (connection, files) => (.ok connection, files)
      | .error failure => (.error (.system ("Database connection failed: " ++ failure.text)), files)

/-! ## Statements over a connection -/

namespace Connection

/-- An empty file is an empty database. -/
def content (connection : Connection) (files : Tree) : Except Failure Database :=
  if connection.closed then .error .connectionClosed
  else
    match connection.place with
    | none => .ok connection.memory
    | some place =>
        match files.node? place with
        | some (.database content) => .ok content
        | some (.file []) => .ok empty
        | some (.file bytes) =>
            match Image.read? bytes with
            | some content => .ok content
            | none => .error .notDatabase
        | some .directory | none => .error .cannotOpen

def save (connection : Connection) (files : Tree) (content : Database) : Connection × Tree :=
  match connection.place with
  | none => ({ connection with memory := content }, files)
  | some place => (connection, files.put place (.database content))

def close (connection : Connection) : Connection :=
  { connection with closed := true }

/-- A read-only database refuses every statement that would write, a clash included. -/
def permitted (connection : Connection) (outcome : Except Failure Database) :
    Except Failure Database :=
  if connection.readOnly then
    match outcome with
    | .ok _ | .error (.duplicate _) | .error .full => .error .readOnly
    | .error failure => .error failure
  else outcome

def addUser (connection : Connection) (files : Tree) (user : Principal) :
    Except StoreError Unit × Connection × Tree :=
  match (connection.content files).bind fun content => connection.permitted (content.insertUser user)
  with
  | .ok content => (.ok (), connection.save files content)
  | .error failure => (.error (failure.during "Failed to create user"), connection, files)

def countUsers (connection : Connection) (files : Tree) : Except StoreError Nat :=
  match connection.content files with
  | .ok content => content.countUsers
  | .error failure => .error (failure.during "Failed to count users")

def findUser (connection : Connection) (files : Tree) (id : Int64) :
    Except StoreError (Option Principal) :=
  match connection.content files with
  | .ok content => content.findUser id
  | .error failure => .error (failure.during "Failed to query user")

/-- The failure of the first statement that would change a database nothing may be written to. -/
def firstRefusal? (content : Database) (planned : PlannedStatement) : Option SystemError :=
  let refusal (failure : Failure) : SystemError :=
    .system (planned.context ++ ": " ++ failure.text)
  match content.perform planned.statement with
  | .error failure => some (refusal failure)
  | .ok changed => if changed = content then none else some (refusal .readOnly)

def migrate (connection : Connection) (files : Tree) :
    Except SystemError Unit × Connection × Tree :=
  match connection.content files with
  | .error failure =>
      (.error (.system ("Failed to create migrations table: " ++ failure.text)), connection, files)
  | .ok content =>
      if connection.readOnly then
        match content.plan.findSome? (firstRefusal? content) with
        | none => (.ok (), connection, files)
        | some error => (.error error, connection, files)
      else
        let (outcome, content) := content.migrate
        (outcome, connection.save files content)

end Connection

end Tenancy.Database
