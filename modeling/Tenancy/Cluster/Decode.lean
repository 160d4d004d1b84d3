import Tenancy.Cluster.Kubeconfig
import Tenancy.Yaml.Document

/-! Kubeconfigs out of YAML. All that a kubeconfig can say has to have the right shape; extensions and
preferences are not kept. -/

namespace Tenancy.Kubeconfig

open Tenancy.Yaml

/-! ## Values

A value that is left out is null. -/

def textOf? : Node → Option String
  | .text value => some value
  | _ => none

def truthOf? : Node → Option Bool
  | .truth value => some value
  | _ => none

def optional (read : Node → Option α) : Node → Option (Option α)
  | .null => some none
  | node => (read node).map some

def listOf? (read : Node → Option α) : Node → Option (List α)
  | .null => some []
  | .list items => items.mapM read
  | _ => none

abbrev Fields := String → Node

/-- A record is a table with texts for keys. -/
def fieldsOf? : Node → Option Fields
  | .null => some fun _ => .null
  | .table entries => do
      let named ← entries.mapM fun (key, value) => (textOf? key).map (·, value)
      some fun name => (named.lookup name).getD .null
  | _ => none

def textMapOf? : Node → Option (List (String × String))
  | .table entries => entries.mapM fun (key, value) => do some (← textOf? key, ← textOf? value)
  | .null => some []
  | _ => none

def namedOf? (bodyKey : String) (read : Node → Option α) (node : Node) : Option (Named α) := do
  let fields ← fieldsOf? node
  some ⟨← textOf? (fields "name"), ← optional read (fields bodyKey)⟩

def checkAll (fields : Fields) (read : Node → Option α) (names : List String) : Option Unit := do
  let _ ← names.mapM fun name => optional read (fields name)

def extensionOf? (node : Node) : Option Unit := do
  let fields ← fieldsOf? node
  let _ ← textOf? (fields "name")

def checkExtensions (fields : Fields) : Option Unit :=
  checkAll fields (listOf? extensionOf?) ["extensions"]

/-! ## Entries -/

def serverOf? (node : Node) : Option ServerEntry := do
  let fields ← fieldsOf? node
  checkExtensions fields
  some {
    server := ← optional textOf? (fields "server")
    certificate := ← optional textOf? (fields "certificate-authority-data")
    certificateFile := ← optional textOf? (fields "certificate-authority")
    proxy := ← optional textOf? (fields "proxy-url")
    unverified := ← optional truthOf? (fields "insecure-skip-tls-verify")
    verifiedName := ← optional textOf? (fields "tls-server-name")
    uncompressed := ← optional truthOf? (fields "disable-compression") }

def contextOf? (node : Node) : Option ContextEntry := do
  let fields ← fieldsOf? node
  checkExtensions fields
  some {
    cluster := ← textOf? (fields "cluster")
    user := ← optional textOf? (fields "user")
    defaultNamespace := ← optional textOf? (fields "namespace") }

def providerOf? (node : Node) : Option Provider := do
  let fields ← fieldsOf? node
  some ⟨← textOf? (fields "name"), ← textMapOf? (fields "config")⟩

def modeOf? (node : Node) : Option String := do
  let mode ← textOf? node
  if mode ∈ ["Never", "IfAvailable", "Always"] then some mode else none

def commandOf? (node : Node) : Option CredentialCommand := do
  let fields ← fieldsOf? node
  some {
    version := ← optional textOf? (fields "apiVersion")
    command := ← optional textOf? (fields "command")
    arguments := ← listOf? textOf? (fields "args")
    environment := ← listOf? textMapOf? (fields "env")
    hint := ← optional textOf? (fields "installHint")
    mode := ← optional modeOf? (fields "interactiveMode")
    tellsCluster := ← optional truthOf? (fields "provideClusterInfo") }

def userOf? (node : Node) : Option UserEntry := do
  let fields ← fieldsOf? node
  some {
    username := ← optional textOf? (fields "username")
    password := ← optional textOf? (fields "password")
    token := ← optional textOf? (fields "token")
    tokenFile := ← optional textOf? (fields "tokenFile")
    certificate := ← optional textOf? (fields "client-certificate-data")
    certificateFile := ← optional textOf? (fields "client-certificate")
    key := ← optional textOf? (fields "client-key-data")
    keyFile := ← optional textOf? (fields "client-key")
    subject := ← optional textOf? (fields "as")
    groups := ← listOf? textOf? (fields "as-groups")
    provider := ← optional providerOf? (fields "auth-provider")
    command := ← optional commandOf? (fields "exec") }

def preferencesOf? (node : Node) : Option Unit := do
  let fields ← fieldsOf? node
  checkAll fields truthOf? ["colors"]
  checkExtensions fields

/-! ## Documents -/

def ofNode? (node : Node) : Option Kubeconfig := do
  let fields ← fieldsOf? node
  checkAll fields preferencesOf? ["preferences"]
  checkExtensions fields
  some {
    clusters := ← listOf? (namedOf? "cluster" serverOf?) (fields "clusters")
    users := ← listOf? (namedOf? "user" userOf?) (fields "users")
    contexts := ← listOf? (namedOf? "context" contextOf?) (fields "contexts")
    currentContext := ← optional textOf? (fields "current-context")
    kind := ← optional textOf? (fields "kind")
    version := ← optional textOf? (fields "apiVersion") }

/-- The kubeconfig of a text, all its documents together. -/
def parse (text : String) : Except KubeconfigFault Kubeconfig :=
  match read? text with
  | none => .error (.malformed "the text is no YAML")
  | some nodes =>
      match nodes.mapM ofNode? with
      | none => .error (.malformed "a document is no kubeconfig")
      | some configs => configs.foldlM merge empty

end Tenancy.Kubeconfig
