import Tenancy.Database.Tables
import Tenancy.Files.Path
import Tenancy.Text.Utf8

/-! A tree of files, with the errors of the operating system for what it cannot do. -/

namespace Tenancy.Files

inductive Fault where
  | notFound
  | alreadyThere
  | notDirectory
  | isDirectory
  | nameTooLong
  | zeroByte
  | notText
  deriving DecidableEq, Repr

def Fault.text : Fault → String
  | notFound => "No such file or directory (os error 2)"
  | alreadyThere => "File exists (os error 17)"
  | notDirectory => "Not a directory (os error 20)"
  | isDirectory => "Is a directory (os error 21)"
  | nameTooLong => "File name too long (os error 36)"
  | zeroByte => "file name contained an unexpected NUL byte"
  | notText => "stream did not contain valid UTF-8"

inductive Node where
  | directory
  | file (content : List UInt8)
  /-- A file that holds a database. -/
  | database (content : Database)
  deriving DecidableEq

/-- A place is the list of names on the way from the root. -/
abbrev Place := List String

structure Tree where
  nodes : List (Place × Node)
  /-- The current directory. -/
  here : Place

namespace Tree

/-- The root is always there. -/
def node? (tree : Tree) (place : Place) : Option Node :=
  if place.isEmpty then some .directory else tree.nodes.lookup place

def isDirectory (tree : Tree) (place : Place) : Bool :=
  tree.node? place = some .directory

def put (tree : Tree) (place : Place) (node : Node) : Tree :=
  { tree with nodes := (place, node) :: tree.nodes.filter (·.1 ≠ place) }

/-- The longest name a directory can hold, in bytes. -/
def nameLimit : Nat := 255

/-! ## Walking -/

/-- The place a name leads to from a directory, whether or not something is there. -/
def stepFrom (place : Place) (name : String) : Place :=
  if name = "." then place
  else if name = ".." then place.dropLast
  else place ++ [name]

def walk (tree : Tree) (place : Place) : List String → Except Fault Place
  | [] => .ok place
  | name :: rest =>
      if !tree.isDirectory place then
        .error (if (tree.node? place).isSome then .notDirectory else .notFound)
      else if nameLimit < (name.toList.map Char.utf8Size).sum then .error .nameTooLong
      else tree.walk (stepFrom place name) rest

/-- The place a path stands for. Everything but its end has to be there. -/
def resolve (tree : Tree) (text : String) : Except Fault Place := do
  if text.toList.contains (Char.ofNat 0) then throw .zeroByte
  if text.isEmpty then throw .notFound
  let path := Path.parse text
  let place ← tree.walk (if path.absolute then [] else tree.here) path.names
  if path.trailing && (tree.node? place).isSome && !tree.isDirectory place then throw .notDirectory
  pure place

/-- What is at a path. -/
def find (tree : Tree) (text : String) : Except Fault Node := do
  match tree.node? (← tree.resolve text) with
  | some node => pure node
  | none => throw .notFound

def isThere (tree : Tree) (text : String) : Bool :=
  match tree.find text with
  | .ok _ => true
  | .error _ => false

def isDirectoryAt (tree : Tree) (text : String) : Bool :=
  match tree.find text with
  | .ok .directory => true
  | _ => false

/-! ## Reading -/

def readText (tree : Tree) (text : String) : Except Fault String := do
  match ← tree.find text with
  | .directory => throw .isDirectory
  | .database _ => throw .notText
  | .file content =>
      match Text.Utf8.decode? content with
      | some characters => pure (.ofList characters)
      | none => throw .notText

/-! ## Making directories -/

def makeDirectory (tree : Tree) (text : String) : Except Fault Tree := do
  let place ← tree.resolve text
  if (tree.node? place).isSome then throw .alreadyThere
  pure (tree.put place .directory)

/-- Makes a directory unless there is one at the path already. -/
def ensureDirectory (tree : Tree) (text : String) : Except Fault Tree :=
  match tree.makeDirectory text with
  | .ok tree => .ok tree
  | .error fault => if tree.isDirectoryAt text then .ok tree else .error fault

/-- Makes a directory and those above it that are missing. The bound is the number of names. -/
def makeDirectoriesWithin : Nat → Tree → String → Except Fault Tree
  | 0, tree, _ => .ok tree
  | bound + 1, tree, text =>
      if text.isEmpty then .ok tree
      else
        match tree.makeDirectory text with
        | .ok tree => .ok tree
        | .error .notFound =>
            match Path.parent? text with
            | none => .error .notFound
            | some above => do
                let tree ← makeDirectoriesWithin bound tree above
                tree.ensureDirectory text
        | .error fault => if tree.isDirectoryAt text then .ok tree else .error fault

def makeDirectories (tree : Tree) (text : String) : Except Fault Tree :=
  makeDirectoriesWithin (text.length + 1) tree text

end Tree

end Tenancy.Files
