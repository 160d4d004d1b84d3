import Tenancy.Cluster.Client

/-! A connector that has nobody to ask: credentials have to stand in the kubeconfig or in a file, and
there are no proxies on the way. -/

namespace Tenancy.Kubeconfig

open Tenancy.Files

/-! ## Files and certificates -/

def isBase64Letter (character : Char) : Bool :=
  character.isAlphanum || character == '+' || character == '/'

/-- Groups of four letters; the last may end in one or two equals signs. -/
def isBase64 : List Char → Bool
  | [] => true
  | [first, second, '=', '='] => isBase64Letter first && ['A', 'Q', 'g', 'w'].contains second
  | [first, second, third, '='] =>
      isBase64Letter first && isBase64Letter second &&
        "AEIMQUYcgkosw048".toList.contains third
  | first :: second :: third :: fourth :: rest =>
      [first, second, third, fourth].all isBase64Letter && isBase64 rest
  | _ => false

/-- A path in a kubeconfig starts from the directory the kubeconfig is in. -/
def pathFrom (directory path : String) : String :=
  if directory.isEmpty || (Path.parse path).absolute then path else directory ++ "/" ++ path

def hasFile (files : Tree) (directory path : String) : Bool :=
  match files.find (pathFrom directory path) with
  | .ok .directory | .error _ => false
  | .ok _ => true

/-- What is given in base 64, or else in a file, is there. -/
def isThere (files : Tree) (directory : String) (given path : Option String) : Bool :=
  match given with
  | some text => isBase64 text.toList
  | none => path.all (hasFile files directory)

/-! ## Clients -/

/-- An empty proxy is none. -/
def proxy? (entry : ServerEntry) : Option String :=
  entry.proxy.filter (· ≠ "")

/-- Whether a user has credentials that need no asking for. The first kind there is counts. -/
def credentials (files : Tree) (directory : String) (user : UserEntry) : Except String Unit :=
  if user.provider.isSome then .error "there is no provider to ask for credentials"
  else if user.username.isSome && user.password.isSome || user.token.isSome then .ok ()
  else
    match user.tokenFile, user.command with
    | some path, _ =>
        if hasFile files directory path then .ok () else .error "no token to be had"
    | none, some _ => .error "there is no command to run for credentials"
    | none, none => .ok ()

def configurePlain (files : Tree) (directory : String) (config : Kubeconfig) (asked : Option String) :
    Except String Location := do
  let some (entry, _) := config.entries? asked | throw "no cluster for the context"
  let some location := entry.server.bind Location.parse? | throw "invalid server URL"
  if !isThere files directory entry.certificate entry.certificateFile then
    throw "no certificate to be had"
  if (proxy? entry).any fun proxy => (Location.parse? proxy).isNone then throw "invalid proxy URL"
  pure location

def connectPlain (files : Tree) (directory : String) (config : Kubeconfig) (asked : Option String) :
    Except String Unit := do
  let some (entry, user) := config.entries? asked | throw "no cluster for the context"
  if (proxy? entry).isSome then throw "proxies are not supported"
  credentials files directory user

def Connector.plain (files : Tree) : Connector where
  configure := configurePlain files
  connect := connectPlain files

end Tenancy.Kubeconfig
