import Tenancy.Settings.Types
import Tenancy.Toml.Document

/-! Settings out of a TOML document. What the document leaves out has its default, and what it says
beyond the settings is passed over. -/

namespace Tenancy.Settings

open Tenancy.Toml

/-! ## Values -/

def textOf? : Item → Option String
  | .text value => some value
  | _ => none

def truthOf? : Item → Option Bool
  | .truth value => some value
  | _ => none

def integerOf? (low high : Int) : Item → Option Int
  | .integer value => if low ≤ value ∧ value ≤ high then some value else none
  | _ => none

def uint16Of? (item : Item) : Option UInt16 :=
  (integerOf? 0 (UInt16.size - 1 : Nat) item).map fun value => .ofNat value.toNat

def uint32Of? (item : Item) : Option UInt32 :=
  (integerOf? 0 (UInt32.size - 1 : Nat) item).map fun value => .ofNat value.toNat

/-- A document has no whole numbers above the range of 64 signed bits. -/
def uint64Of? (item : Item) : Option UInt64 :=
  (integerOf? 0 Int64.maxValue.toInt item).map fun value => .ofNat value.toNat

def int64Of? (item : Item) : Option Int64 :=
  (integerOf? Int64.minValue.toInt Int64.maxValue.toInt item).map .ofInt

/-! ## Sections

A section is a table. It may also be given as the list of its values, in the order of its fields and
perhaps not all of them. A date or a time passes for a table with none of the fields. -/

abbrev Fields := String → Option Item

def fieldsOf? (names : List String) : Item → Option Fields
  | .table _ entries => some fun name => entries.lookup name
  | .list items => some fun name => (names.zip items).lookup name
  | .tables rows => some fun name => (names.zip (rows.map (.table .header))).lookup name
  | .moment => some fun _ => none
  | _ => none

def orDefault (fields : Fields) (name : String) (read : Item → Option α) (default : α) :
    Option α :=
  match fields name with
  | none => some default
  | some item => read item

def needed (fields : Fields) (name : String) (read : Item → Option α) : Option α :=
  (fields name).bind read

def serverOf? (item : Item) : Option ServerSettings := do
  let fields ← fieldsOf? ["host", "port"] item
  some ⟨← orDefault fields "host" textOf? default.server.host,
    ← orDefault fields "port" uint16Of? default.server.port⟩

def databaseOf? (item : Item) : Option DatabaseSettings := do
  let fields ← fieldsOf? ["url", "max_connections"] item
  some ⟨← orDefault fields "url" textOf? default.database.url,
    ← orDefault fields "max_connections" uint32Of? default.database.maxConnections⟩

def loggingOf? (item : Item) : Option LogSettings := do
  let fields ← fieldsOf? ["level", "log_dir", "rotation", "json_format"] item
  some ⟨← orDefault fields "level" textOf? default.logging.level,
    ← orDefault fields "log_dir" (fun item => (textOf? item).map some) default.logging.directory,
    ← orDefault fields "rotation" textOf? default.logging.rotation,
    ← orDefault fields "json_format" truthOf? default.logging.json⟩

def authOf? (item : Item) : Option AuthSettings := do
  let fields ← fieldsOf? ["jwt_secret", "token_ttl_hours", "bootstrap_admin"] item
  some ⟨← orDefault fields "jwt_secret" textOf? default.auth.secret,
    ← orDefault fields "token_ttl_hours" int64Of? default.auth.tokenHours,
    ← orDefault fields "bootstrap_admin" textOf? default.auth.firstAdmin⟩

def registryOf? (item : Item) : Option RegistrySettings := do
  let fields ← fieldsOf? ["max_page_size"] item
  some ⟨← orDefault fields "max_page_size" uint32Of? default.registry.maxPageSize⟩

/-- A cluster has no defaults; only its context may be missing. -/
def clusterOf? (item : Item) : Option ClusterSettings := do
  let fields ← fieldsOf? ["code", "name", "kubeconfig", "context"] item
  some ⟨← needed fields "code" int64Of?, ← needed fields "name" textOf?,
    ← needed fields "kubeconfig" textOf?,
    ← orDefault fields "context" (fun item => (textOf? item).map some) none⟩

def clustersOf? : Item → Option (List ClusterSettings)
  | .list items => items.mapM clusterOf?
  | .tables rows => rows.mapM fun entries => clusterOf? (.table .header entries)
  | _ => none

def kubernetesOf? (item : Item) : Option GatewaySettings := do
  let fields ← fieldsOf? ["request_timeout_secs", "clusters"] item
  some ⟨← orDefault fields "request_timeout_secs" uint64Of? default.kubernetes.timeoutSeconds,
    ← orDefault fields "clusters" clustersOf? default.kubernetes.clusters⟩

def ofEntries? (entries : Entries) : Option Settings := do
  let fields : Fields := fun name => entries.lookup name
  some ⟨← orDefault fields "server" serverOf? default.server,
    ← orDefault fields "database" databaseOf? default.database,
    ← orDefault fields "logging" loggingOf? default.logging,
    ← orDefault fields "auth" authOf? default.auth,
    ← orDefault fields "registry" registryOf? default.registry,
    ← orDefault fields "kubernetes" kubernetesOf? default.kubernetes⟩

def ofToml (text : String) : Except SettingsError Settings :=
  match (Toml.read? text).bind ofEntries? with
  | some settings => .ok settings
  | none => .error .malformed

end Tenancy.Settings
