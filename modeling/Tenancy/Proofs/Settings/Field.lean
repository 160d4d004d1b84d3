import Tenancy.Proofs.Settings.Kind

/-! The settings field by field: where a document has a field, which variable it can be set by, and
what it is where nothing gives it. Settings are read from a document field by field. -/

namespace Tenancy.Settings

open Tenancy.Toml

inductive Field where
  | host
  | port
  | databaseUrl
  | maxConnections
  | logLevel
  | logDirectory
  | logRotation
  | logJson
  | secret
  | tokenHours
  | firstAdmin
  | maxPageSize
  | clusterTimeout
  | clusters
  deriving DecidableEq, Repr

namespace Field

abbrev kind : Field → Kind
  | host | databaseUrl | logLevel | logRotation | secret | firstAdmin => .text
  | logDirectory => .directory
  | logJson => .truth
  | port => .word16
  | maxConnections | maxPageSize => .word32
  | clusterTimeout => .word64
  | tokenHours => .signed64
  | clusters => .clusters

abbrev Value (field : Field) : Type := field.kind.Value

def get (settings : Settings) : (field : Field) → field.Value
  | host => settings.server.host
  | port => settings.server.port
  | databaseUrl => settings.database.url
  | maxConnections => settings.database.maxConnections
  | logLevel => settings.logging.level
  | logDirectory => settings.logging.directory
  | logRotation => settings.logging.rotation
  | logJson => settings.logging.json
  | secret => settings.auth.secret
  | tokenHours => settings.auth.tokenHours
  | firstAdmin => settings.auth.firstAdmin
  | maxPageSize => settings.registry.maxPageSize
  | clusterTimeout => settings.kubernetes.timeoutSeconds
  | clusters => settings.kubernetes.clusters

def set (settings : Settings) : (field : Field) → field.Value → Settings
  | host, value => { settings with server.host := value }
  | port, value => { settings with server.port := value }
  | databaseUrl, value => { settings with database.url := value }
  | maxConnections, value => { settings with database.maxConnections := value }
  | logLevel, value => { settings with logging.level := value }
  | logDirectory, value => { settings with logging.directory := value }
  | logRotation, value => { settings with logging.rotation := value }
  | logJson, value => { settings with logging.json := value }
  | secret, value => { settings with auth.secret := value }
  | tokenHours, value => { settings with auth.tokenHours := value }
  | firstAdmin, value => { settings with auth.firstAdmin := value }
  | maxPageSize, value => { settings with registry.maxPageSize := value }
  | clusterTimeout, value => { settings with kubernetes.timeoutSeconds := value }
  | clusters, value => { settings with kubernetes.clusters := value }

theorem get_set_same (settings : Settings) (field : Field) (value : field.Value) :
    field.get (field.set settings value) = value := by
  cases field <;> rfl

theorem get_set_other (settings : Settings) {field other : Field} (different : other ≠ field)
    (value : field.Value) : other.get (field.set settings value) = other.get settings := by
  cases field <;> cases other <;> first | rfl | exact absurd rfl different

def build (values : (field : Field) → field.Value) : Settings where
  server := ⟨values host, values port⟩
  database := ⟨values databaseUrl, values maxConnections⟩
  logging := ⟨values logLevel, values logDirectory, values logRotation, values logJson⟩
  auth := ⟨values secret, values tokenHours, values firstAdmin⟩
  registry := ⟨values maxPageSize⟩
  kubernetes := ⟨values clusterTimeout, values clusters⟩

theorem get_build (values : (field : Field) → field.Value) (field : Field) :
    field.get (build values) = values field := by
  cases field <;> rfl

theorem eq_of_get {left right : Settings} (same : ∀ field : Field, field.get left = field.get right) :
    left = right :=
  congrArg build (funext same)

/-! ## Documents -/

/-- The section of a document that has the field. -/
def sectionName : Field → String
  | host | port => "server"
  | databaseUrl | maxConnections => "database"
  | logLevel | logDirectory | logRotation | logJson => "logging"
  | secret | tokenHours | firstAdmin => "auth"
  | maxPageSize => "registry"
  | clusterTimeout | clusters => "kubernetes"

def key : Field → String
  | host => "host"
  | port => "port"
  | databaseUrl => "url"
  | maxConnections => "max_connections"
  | logLevel => "level"
  | logDirectory => "log_dir"
  | logRotation => "rotation"
  | logJson => "json_format"
  | secret => "jwt_secret"
  | tokenHours => "token_ttl_hours"
  | firstAdmin => "bootstrap_admin"
  | maxPageSize => "max_page_size"
  | clusterTimeout => "request_timeout_secs"
  | clusters => "clusters"

/-- The place of the field in a section that is a list. -/
def position : Field → Nat
  | host | databaseUrl | logLevel | secret | maxPageSize | clusterTimeout => 0
  | port | maxConnections | logDirectory | tokenHours | clusters => 1
  | logRotation | firstAdmin => 2
  | logJson => 3

/-- The item that a document has for the field. -/
def given (entries : Entries) (field : Field) : Option Item :=
  (entries.lookup field.sectionName).bind (itemAt field.position field.key)

/-- The value is that of the item, or the default where there is none. -/
def Held (field : Field) (item : Option Item) (value : field.Value) : Prop :=
  (item = none ∧ value = field.get default) ∨ ∃ given, item = some given ∧ field.kind.Gives given value

theorem Held.unique {field : Field} {item : Option Item} {value other : field.Value}
    (first : field.Held item value) (second : field.Held item other) : value = other := by
  rcases first with ⟨rfl, rfl⟩ | ⟨given, rfl, gives⟩
  · rcases second with ⟨-, rfl⟩ | ⟨_, ⟨⟩, -⟩
    rfl
  · rcases second with ⟨⟨⟩, -⟩ | ⟨_, ⟨⟩, others⟩
    exact gives.unique others

/-- Every section is one, where it is there at all. -/
def Sectioned (entries : Entries) : Prop :=
  ∀ (field : Field) item, entries.lookup field.sectionName = some item → IsSection item

/-! ## Sections -/

theorem orDefault_eq_held (field : Field) {fields : Fields} {value : field.Value} :
    orDefault fields field.key field.kind.ofItem? (field.get default) = some value ↔
      field.Held (fields field.key) value := by
  rw [orDefault_eq_some_iff]
  simp only [Held, Kind.ofItem?_eq_some_iff]

/-- A section is read into a part of the settings, field by field. -/
structure Reads (name : String) (read : Item → Option α) (part : Settings → α)
    (among : List Field) : Prop where
  named : ∀ field ∈ among, field.sectionName = name
  once : (among.map key).Nodup
  placed : ∀ field ∈ among, (among.map key)[field.position]? = some field.key
  part_eq : ∀ left right, part left = part right ↔
    ∀ field ∈ among, field.get left = field.get right
  reads : ∀ item settings, read item = some (part settings) ↔
    ∃ fields, fieldsOf? (among.map key) item = some fields ∧
      ∀ field ∈ among, field.Held (fields field.key) (field.get settings)

theorem reads_server : Reads "server" serverOf? Settings.server [host, port] := by
  refine ⟨by decide, by decide, by decide, ?_, ?_⟩
  · rintro ⟨⟨_, _⟩, _⟩ ⟨⟨_, _⟩, _⟩
    simp [get]
  · rintro item ⟨⟨_, _⟩, _⟩
    simp only [serverOf?, Option.bind_eq_bind, Option.bind_eq_some_iff, Option.some.injEq,
      List.forall_mem_cons, ← orDefault_eq_held]
    constructor
    · rintro ⟨fields, read, _, first, _, second, ⟨⟩⟩
      exact ⟨fields, read, first, second, nofun⟩
    · rintro ⟨fields, read, first, second, -⟩
      exact ⟨fields, read, _, first, _, second, rfl⟩

theorem reads_logging :
    Reads "logging" loggingOf? Settings.logging [logLevel, logDirectory, logRotation, logJson] := by
  refine ⟨by decide, by decide, by decide, ?_, ?_⟩
  · rintro ⟨_, _, ⟨_, _⟩, _⟩ ⟨_, _, ⟨_, _⟩, _⟩
    simp [get]
  · rintro item ⟨_, _, ⟨_, _⟩, _⟩
    simp only [loggingOf?, Option.bind_eq_bind, Option.bind_eq_some_iff, Option.some.injEq,
      List.forall_mem_cons, ← orDefault_eq_held]
    constructor
    · rintro ⟨fields, read, _, first, _, second, _, third, _, fourth, ⟨⟩⟩
      exact ⟨fields, read, first, second, third, fourth, nofun⟩
    · rintro ⟨fields, read, first, second, third, fourth, -⟩
      exact ⟨fields, read, _, first, _, second, _, third, _, fourth, rfl⟩

theorem reads_database : Reads "database" databaseOf? Settings.database [databaseUrl, maxConnections] := by
  refine ⟨by decide, by decide, by decide, ?_, ?_⟩
  · rintro ⟨_, ⟨_, _⟩, _⟩ ⟨_, ⟨_, _⟩, _⟩
    simp [get]
  · rintro item ⟨_, ⟨_, _⟩, _⟩
    simp only [databaseOf?, Option.bind_eq_bind, Option.bind_eq_some_iff, Option.some.injEq,
      List.forall_mem_cons, ← orDefault_eq_held]
    constructor
    · rintro ⟨fields, read, _, first, _, second, ⟨⟩⟩
      exact ⟨fields, read, first, second, nofun⟩
    · rintro ⟨fields, read, first, second, -⟩
      exact ⟨fields, read, _, first, _, second, rfl⟩

theorem reads_auth : Reads "auth" authOf? Settings.auth [secret, tokenHours, firstAdmin] := by
  refine ⟨by decide, by decide, by decide, ?_, ?_⟩
  · rintro ⟨_, _, _, ⟨_, _, _⟩, _⟩ ⟨_, _, _, ⟨_, _, _⟩, _⟩
    simp [get]
  · rintro item ⟨_, _, _, ⟨_, _, _⟩, _⟩
    simp only [authOf?, Option.bind_eq_bind, Option.bind_eq_some_iff, Option.some.injEq,
      List.forall_mem_cons, ← orDefault_eq_held]
    constructor
    · rintro ⟨fields, read, _, first, _, second, _, third, ⟨⟩⟩
      exact ⟨fields, read, first, second, third, nofun⟩
    · rintro ⟨fields, read, first, second, third, -⟩
      exact ⟨fields, read, _, first, _, second, _, third, rfl⟩

theorem reads_registry : Reads "registry" registryOf? Settings.registry [maxPageSize] := by
  refine ⟨by decide, by decide, by decide, ?_, ?_⟩
  · rintro ⟨_, _, _, _, ⟨_⟩, _⟩ ⟨_, _, _, _, ⟨_⟩, _⟩
    simp [get]
  · rintro item ⟨_, _, _, _, ⟨_⟩, _⟩
    simp only [registryOf?, Option.bind_eq_bind, Option.bind_eq_some_iff, Option.some.injEq,
      List.forall_mem_cons, ← orDefault_eq_held]
    constructor
    · rintro ⟨fields, read, _, first, ⟨⟩⟩
      exact ⟨fields, read, first, nofun⟩
    · rintro ⟨fields, read, first, -⟩
      exact ⟨fields, read, _, first, rfl⟩

theorem reads_kubernetes :
    Reads "kubernetes" kubernetesOf? Settings.kubernetes [clusterTimeout, clusters] := by
  refine ⟨by decide, by decide, by decide, ?_, ?_⟩
  · rintro ⟨_, _, _, _, _, ⟨_, _⟩⟩ ⟨_, _, _, _, _, ⟨_, _⟩⟩
    simp [get]
  · rintro item ⟨_, _, _, _, _, ⟨_, _⟩⟩
    simp only [kubernetesOf?, Option.bind_eq_bind, Option.bind_eq_some_iff, Option.some.injEq,
      List.forall_mem_cons, ← orDefault_eq_held]
    constructor
    · rintro ⟨fields, read, _, first, _, second, ⟨⟩⟩
      exact ⟨fields, read, first, second, nofun⟩
    · rintro ⟨fields, read, first, second, -⟩
      exact ⟨fields, read, _, first, _, second, rfl⟩

theorem given_of_fieldsOf? {names : List String} (once : names.Nodup) {field : Field}
    (named : names[field.position]? = some field.key) {entries : Entries} {item : Item}
    (found : entries.lookup field.sectionName = some item) {fields : Fields}
    (read : fieldsOf? names item = some fields) : fields field.key = field.given entries := by
  rw [given, found, Option.bind_some]
  exact (fields_of_fieldsOf? read).2 once _ _ named

/-- The section is one, where it is there at all, and its fields are as it gives them. -/
def Gives (entries : Entries) (name : String) (among : List Field) (settings : Settings) : Prop :=
  (∀ item, entries.lookup name = some item → IsSection item) ∧
    ∀ field ∈ among, field.Held (field.given entries) (field.get settings)

theorem Reads.orDefault_eq_some_iff {name : String} {read : Item → Option α}
    {part : Settings → α} {among : List Field} (reads : Reads name read part among)
    (entries : Entries) (settings : Settings) :
    orDefault (fun name => entries.lookup name) name read (part default) = some (part settings) ↔
      Gives entries name among settings := by
  cases found : entries.lookup name with
  | none =>
      have absent (field : Field) (member : field ∈ among) : field.given entries = none := by
        rw [given, reads.named field member, found, Option.bind_none]
      simp only [orDefault, Gives, found, Option.some.injEq, reads.part_eq, reduceCtorEq,
        false_implies, implies_true, true_and]
      refine forall₂_congr fun field member => ?_
      simp [Held, absent field member, eq_comm]
  | some item =>
      have here (field : Field) (member : field ∈ among) :
          entries.lookup field.sectionName = some item := by
        rw [reads.named field member, found]
      simp only [orDefault, Gives, found, reads.reads, Option.some.injEq, forall_eq']
      constructor
      · rintro ⟨fields, read, held⟩
        refine ⟨(fields_of_fieldsOf? read).1, fun field member => ?_⟩
        rw [← given_of_fieldsOf? reads.once (reads.placed field member) (here field member) read]
        exact held field member
      · rintro ⟨isSection, held⟩
        rcases exists_fieldsOf? isSection (among.map key) with ⟨fields, read⟩
        refine ⟨fields, read, fun field member => ?_⟩
        rw [given_of_fieldsOf? reads.once (reads.placed field member) (here field member) read]
        exact held field member

/-! ## The whole document -/

theorem ofEntries?_eq_some_iff {entries : Entries} {settings : Settings} :
    ofEntries? entries = some settings ↔ Sectioned entries ∧
      ∀ field : Field, field.Held (field.given entries) (field.get settings) := by
  have server := reads_server.orDefault_eq_some_iff entries settings
  have database := reads_database.orDefault_eq_some_iff entries settings
  have logging := reads_logging.orDefault_eq_some_iff entries settings
  have auth := reads_auth.orDefault_eq_some_iff entries settings
  have registry := reads_registry.orDefault_eq_some_iff entries settings
  have kubernetes := reads_kubernetes.orDefault_eq_some_iff entries settings
  simp only [ofEntries?, Option.bind_eq_bind, Option.bind_eq_some_iff, Option.some.injEq]
  constructor
  · rintro ⟨_, server', _, database', _, logging', _, auth', _, registry', _, kubernetes', rfl⟩
    have server := server.mp server'
    have database := database.mp database'
    have logging := logging.mp logging'
    have auth := auth.mp auth'
    have registry := registry.mp registry'
    have kubernetes := kubernetes.mp kubernetes'
    refine ⟨?_, ?_⟩
    · intro field
      cases field
      case host | port => exact server.1
      case databaseUrl | maxConnections => exact database.1
      case logLevel | logDirectory | logRotation | logJson => exact logging.1
      case secret | tokenHours | firstAdmin => exact auth.1
      case maxPageSize => exact registry.1
      case clusterTimeout | clusters => exact kubernetes.1
    · intro field
      cases field
      case host | port => exact server.2 _ (by decide)
      case databaseUrl | maxConnections => exact database.2 _ (by decide)
      case logLevel | logDirectory | logRotation | logJson => exact logging.2 _ (by decide)
      case secret | tokenHours | firstAdmin => exact auth.2 _ (by decide)
      case maxPageSize => exact registry.2 _ (by decide)
      case clusterTimeout | clusters => exact kubernetes.2 _ (by decide)
  · rintro ⟨sectioned, held⟩
    exact ⟨_, server.mpr ⟨sectioned host, fun field _ => held field⟩,
      _, database.mpr ⟨sectioned databaseUrl, fun field _ => held field⟩,
      _, logging.mpr ⟨sectioned logLevel, fun field _ => held field⟩,
      _, auth.mpr ⟨sectioned secret, fun field _ => held field⟩,
      _, registry.mpr ⟨sectioned maxPageSize, fun field _ => held field⟩,
      _, kubernetes.mpr ⟨sectioned clusters, fun field _ => held field⟩, rfl⟩

end Field

end Tenancy.Settings
