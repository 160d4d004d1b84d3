import Tenancy.Proofs.Settings.Field
import Tenancy.Proofs.Toml.Section
import Tenancy.Settings.Sample

/-! Settings that are rendered and read again. -/

namespace Tenancy.Settings

open Tenancy.Toml

/-! ## What is rendered -/

def optionalPair (key : String) (value : Option String) : Pairs :=
  (value.map fun value => (key, Scalar.text value)).toList

def serverPairs (settings : ServerSettings) : Pairs :=
  [("host", .text settings.host), ("port", .integer settings.port.toNat)]

def databasePairs (settings : DatabaseSettings) : Pairs :=
  [("url", .text settings.url), ("max_connections", .integer settings.maxConnections.toNat)]

def loggingPairs (settings : LogSettings) : Pairs :=
  ("level", .text settings.level) :: optionalPair "log_dir" settings.directory ++
    [("rotation", .text settings.rotation), ("json_format", .truth settings.json)]

def authPairs (settings : AuthSettings) : Pairs :=
  [("jwt_secret", .text settings.secret), ("token_ttl_hours", .integer settings.tokenHours.toInt),
    ("bootstrap_admin", .text settings.firstAdmin)]

def clusterPairs (cluster : ClusterSettings) : Pairs :=
  [("code", .integer cluster.code.toInt), ("name", .text cluster.name),
    ("kubeconfig", .text cluster.kubeconfig)] ++ optionalPair "context" cluster.context

def sections (settings : Settings) : List Section :=
  [("server", serverPairs settings.server), ("database", databasePairs settings.database),
    ("logging", loggingPairs settings.logging), ("auth", authPairs settings.auth),
    ("registry", [("max_page_size", .integer settings.registry.maxPageSize.toNat)]),
    ("kubernetes",
      [("request_timeout_secs", .integer settings.kubernetes.timeoutSeconds.toNat)])]

def clusterLines (cluster : ClusterSettings) : List Line :=
  .blank :: .row ["kubernetes", "clusters"] :: (clusterPairs cluster).lines

/-- No line is blank before the first section. -/
def lines (settings : Settings) : List Line :=
  ((sections settings).flatMap Section.lines).tail ++
    settings.kubernetes.clusters.flatMap clusterLines

theorem blank_cons_lines (settings : Settings) :
    .blank :: lines settings = (sections settings).flatMap Section.lines ++
      settings.kubernetes.clusters.flatMap clusterLines :=
  rfl

theorem toList_textLine (key value : String) :
    (textLine key value).toList = (Line.pair key (.text value)).write := by
  simp [textLine, Line.write, Scalar.write]

theorem toList_numberLine (key : String) (value : Int) :
    (numberLine key value).toList = (Line.pair key (.integer value)).write := by
  simp [numberLine, Line.write, Scalar.write, Text.decimal]

theorem toList_truthLine (key : String) (value : Bool) :
    (truthLine key value).toList = (Line.pair key (.truth value)).write := by
  cases value <;> simp [truthLine, Line.write, Scalar.write]

theorem toList_optionalLine (key : String) (value : Option String) :
    (optionalLine key value).toList = (optionalPair key value).lines.flatMap Line.write := by
  cases value with
  | none => rfl
  | some value => simp [optionalLine, optionalPair, Pairs.lines, toList_textLine]

theorem toList_clusterText (cluster : ClusterSettings) :
    (clusterText cluster).toList = (clusterLines cluster).flatMap Line.write := by
  have opening : "\n[[kubernetes.clusters]]\n".toList =
      Line.blank.write ++ (Line.row ["kubernetes", "clusters"]).write := rfl
  unfold clusterText clusterLines clusterPairs Pairs.lines
  simp only [String.toList_append]
  rw [opening, toList_textLine, toList_textLine, toList_numberLine, toList_optionalLine]
  simp only [Pairs.lines, List.map_cons, List.cons_append, List.nil_append, List.flatMap_cons,
    List.append_assoc]

theorem toList_clusterTexts (clusters : List ClusterSettings) :
    (String.join (clusters.map clusterText)).toList =
      (clusters.flatMap clusterLines).flatMap Line.write := by
  rw [String.toList_join, List.flatMap_map, List.flatMap_assoc]
  apply List.flatMap_congr
  intro cluster _
  exact toList_clusterText cluster

theorem toList_render (settings : Settings) :
    (render settings).toList = (lines settings).flatMap Line.write := by
  have server : "[server]\n".toList = (Line.header ["server"]).write := rfl
  have database : "\n[database]\n".toList =
      Line.blank.write ++ (Line.header ["database"]).write := rfl
  have logging : "\n[logging]\n".toList =
      Line.blank.write ++ (Line.header ["logging"]).write := rfl
  have auth : "\n[auth]\n".toList = Line.blank.write ++ (Line.header ["auth"]).write := rfl
  have registry : "\n[registry]\n".toList =
      Line.blank.write ++ (Line.header ["registry"]).write := rfl
  have kubernetes : "\n[kubernetes]\n".toList =
      Line.blank.write ++ (Line.header ["kubernetes"]).write := rfl
  refine @List.append_cancel_left _ Line.blank.write _ _ ?_
  rw [← List.flatMap_cons, blank_cons_lines]
  unfold render sections serverPairs databasePairs loggingPairs authPairs
  simp only [String.toList_append, toList_textLine, toList_numberLine, toList_truthLine,
    toList_optionalLine, toList_clusterTexts]
  rw [server, database, logging, auth, registry, kubernetes]
  simp only [Section.lines, Pairs.lines, List.map_append, List.map_cons, List.cons_append,
    List.map_nil, List.nil_append, List.flatMap_cons, List.flatMap_nil, List.flatMap_append,
    List.append_assoc, List.append_nil]

/-! ## What is read -/

def clusterRow (cluster : ClusterSettings) : Entries := (clusterPairs cluster).entries

def kubernetesEntries (settings : GatewaySettings) (rows : List Entries) : Entries :=
  ("request_timeout_secs", .integer settings.timeoutSeconds.toNat) ::
    match rows with
    | [] => []
    | row :: rows => [("clusters", .tables (row :: rows))]

/-- The tables before those of the clusters. -/
def tables (settings : Settings) : Entries :=
  [("server", .table .header (serverPairs settings.server).entries),
    ("database", .table .header (databasePairs settings.database).entries),
    ("logging", .table .header (loggingPairs settings.logging).entries),
    ("auth", .table .header (authPairs settings.auth).entries),
    ("registry", .table .header [("max_page_size", .integer settings.registry.maxPageSize.toNat)])]

def document (settings : Settings) (rows : List Entries) : Entries :=
  tables settings ++ [("kubernetes", .table .header (kubernetesEntries settings.kubernetes rows))]

theorem openRow_document (settings : Settings) (rows : List Entries) :
    (document settings rows).openRow ["kubernetes", "clusters"] =
      some (document settings (rows ++ [[]])) := by
  cases rows <;> rfl

theorem leadsInto_document (settings : Settings) (rows : List Entries) :
    LeadsInto ["kubernetes", "clusters"] fun row => document settings (rows ++ [row]) := by
  have outside : "kubernetes" ∉ (tables settings).map Prod.fst := by
    change "kubernetes" ∉ ["server", "database", "logging", "auth", "registry"]
    decide
  have inside : "clusters" ∉ (kubernetesEntries settings.kubernetes []).map Prod.fst := by
    change "clusters" ∉ ["request_timeout_secs"]
    decide
  have leads := (leadsInto_nil.row inside rows).table outside
  have same (row : Entries) : kubernetesEntries settings.kubernetes (rows ++ [row]) =
      kubernetesEntries settings.kubernetes [] ++ [("clusters", .tables (rows ++ [row]))] := by
    cases rows <;> rfl
  simp only [document, same]
  exact leads

theorem foldlM_clusterLines (settings : Settings) (rows : List Entries)
    (cluster : ClusterSettings) (header : List String) :
    (clusterLines cluster).foldlM Line.apply ⟨document settings rows, header⟩ =
      some ⟨document settings (rows ++ [clusterRow cluster]), ["kubernetes", "clusters"]⟩ := by
  have opened : Line.apply ⟨document settings rows, header⟩ (.row ["kubernetes", "clusters"]) =
      some ⟨document settings (rows ++ [[]]), ["kubernetes", "clusters"]⟩ := by
    rw [Line.apply, openRow_document]
    rfl
  have once : ((clusterPairs cluster).map Prod.fst).Nodup := by
    rcases cluster with ⟨code, name, path, _ | context⟩
    · change ["code", "name", "kubeconfig"].Nodup
      decide
    · change ["code", "name", "kubeconfig", "context"].Nodup
      decide
  change (Line.apply ⟨document settings rows, header⟩ (.row ["kubernetes", "clusters"])).bind
    (fun opened => (clusterPairs cluster).lines.foldlM Line.apply opened) = _
  rw [opened]
  exact @foldlM_pairs _ _ (leadsInto_document settings rows) [] (clusterPairs cluster) once

theorem foldlM_clusters (settings : Settings) (rows : List Entries)
    (clusters : List ClusterSettings) (header : List String) :
    ∃ last, (clusters.flatMap clusterLines).foldlM Line.apply ⟨document settings rows, header⟩ =
      some ⟨document settings (rows ++ clusters.map clusterRow), last⟩ := by
  induction clusters generalizing rows header with
  | nil => exact ⟨header, by rw [List.map_nil, List.append_nil]; rfl⟩
  | cons cluster clusters induction =>
      rcases induction (rows ++ [clusterRow cluster]) ["kubernetes", "clusters"] with
        ⟨last, read⟩
      refine ⟨last, ?_⟩
      rw [List.flatMap_cons, List.foldlM_append, foldlM_clusterLines]
      refine Eq.trans read ?_
      rw [List.append_assoc]
      rfl

theorem foldlM_lines (settings : Settings) :
    ∃ last, (lines settings).foldlM Line.apply ⟨[], []⟩ =
      some ⟨document settings (settings.kubernetes.clusters.map clusterRow), last⟩ := by
  have once : ((sections settings).map Prod.fst).Nodup := by
    change ["server", "database", "logging", "auth", "registry", "kubernetes"].Nodup
    decide
  have keysOnce : ∀ part ∈ sections settings, (part.2.map Prod.fst).Nodup := by
    have logging : ((loggingPairs settings.logging).map Prod.fst).Nodup := by
      rcases settings.logging with ⟨level, _ | directory, rotation, json⟩
      · change ["level", "rotation", "json_format"].Nodup
        decide
      · change ["level", "log_dir", "rotation", "json_format"].Nodup
        decide
    have server : ["host", "port"].Nodup := by decide
    have database : ["url", "max_connections"].Nodup := by decide
    have auth : ["jwt_secret", "token_ttl_hours", "bootstrap_admin"].Nodup := by decide
    simp only [sections, List.forall_mem_cons]
    exact ⟨server, database, logging, auth, List.nodup_singleton _, List.nodup_singleton _, nofun⟩
  rcases @foldlM_sections (sections settings) [] once keysOnce [] with ⟨header, read⟩
  rcases foldlM_clusters settings [] settings.kubernetes.clusters header with ⟨last, readMore⟩
  refine ⟨last, ?_⟩
  change (Line.blank :: lines settings).foldlM Line.apply ⟨[], []⟩ = _
  rw [blank_cons_lines, List.foldlM_append, read]
  exact readMore

theorem givesCluster_clusterRow (cluster : ClusterSettings) :
    Kind.GivesCluster (.table .header (clusterRow cluster)) cluster := by
  rcases cluster with ⟨code, name, path, context⟩
  constructor
  case isSection => trivial
  case code => rfl
  case name => rfl
  case kubeconfig => rfl
  case context => cases context <;> rfl

theorem held_clusters (settings : Settings) :
    Field.clusters.Held
      (Field.clusters.given (document settings (settings.kubernetes.clusters.map clusterRow)))
      settings.kubernetes.clusters := by
  cases settings.kubernetes.clusters with
  | nil => exact .inl ⟨rfl, rfl⟩
  | cons first rest =>
      refine .inr ⟨_, rfl, _, rfl, ?_⟩
      rw [← List.map_cons, List.map_map, List.forall₂_map_left_iff, List.forall₂_same]
      intro cluster _
      exact givesCluster_clusterRow cluster

theorem held_logDirectory (settings : Settings) (rows : List Entries) :
    Field.logDirectory.Held (Field.logDirectory.given (document settings rows))
      settings.logging.directory := by
  rcases settings with ⟨_, _, ⟨level, _ | directory, rotation, json⟩, _⟩
  · exact .inl ⟨rfl, rfl⟩
  · exact .inr ⟨_, rfl, directory, rfl, rfl⟩

theorem lookup_document (settings : Settings) (rows : List Entries) (field : Field) :
    ∃ entries,
      (document settings rows).lookup field.sectionName = some (.table .header entries) := by
  cases field <;> exact ⟨_, rfl⟩

theorem ofEntries?_document {settings : Settings}
    (fits : (settings.kubernetes.timeoutSeconds.toNat : Int) ≤ Int64.maxValue.toInt) :
    ofEntries? (document settings (settings.kubernetes.clusters.map clusterRow)) =
      some settings := by
  rw [Field.ofEntries?_eq_some_iff]
  constructor
  · intro field item found
    rcases lookup_document settings (settings.kubernetes.clusters.map clusterRow) field with
      ⟨entries, same⟩
    rw [same] at found
    cases found
    trivial
  · intro field
    cases field with
    | host | port | databaseUrl | maxConnections | logLevel | secret | tokenHours | firstAdmin
      | maxPageSize => exact .inr ⟨_, rfl, rfl⟩
    | logRotation | logJson =>
        rcases settings with ⟨_, _, ⟨_, _ | _, _, _⟩, _⟩ <;> exact .inr ⟨_, rfl, rfl⟩
    | logDirectory => exact held_logDirectory settings _
    | clusterTimeout => exact .inr ⟨_, rfl, rfl, fits⟩
    | clusters => exact held_clusters settings

/-- Settings whose texts need no escapes are read back as they were rendered. -/
theorem ofToml_render {settings : Settings} (fits : ∀ line ∈ lines settings, line.Fits) :
    ofToml (render settings) = .ok settings := by
  have timeout : Line.pair "request_timeout_secs"
      (.integer settings.kubernetes.timeoutSeconds.toNat) ∈ lines settings := by
    simp [lines, sections, Section.lines, Pairs.lines]
  have written : render settings = .ofList ((lines settings).flatMap Line.write) := by
    rw [← toList_render, String.ofList_toList]
  rcases foldlM_lines settings with ⟨last, read⟩
  rw [ofToml, written, read?_write fits, read]
  simp only [Option.map_some, Option.bind_some, ofEntries?_document (fits _ timeout).2.2]

theorem ofToml_sample : ofToml sample = .ok sampleSettings := by
  have fits : ∀ line ∈ lines sampleSettings, line.Fits := by decide
  exact ofToml_render fits

end Tenancy.Settings
