import Tenancy.Cluster.Connector
import Tenancy.Proofs.Cluster.Location
import Tenancy.Proofs.Outcome

/-! The way from a context to the URL of an API server, link by link. Every link is the first entry
of its name, and a way that breaks off is reported by the link that is missing. -/

namespace Tenancy

namespace Kubeconfig

variable {config : Kubeconfig} {asked : Option String} {name server : String}

/-! ## Links -/

/-- No entry before this one has the name. -/
structure FirstNamed (entries : List (Named α)) (name : String) (entry : Named α) : Prop where
  named : entry.name = name
  first : ∃ before after, entries = before ++ entry :: after ∧ ∀ earlier ∈ before, earlier.name ≠ name

def NoneNamed (entries : List (Named α)) (name : String) : Prop :=
  ∀ entry ∈ entries, entry.name ≠ name

/-- A context that is asked for is taken whatever the current one is. -/
inductive Chosen (config : Kubeconfig) : Option String → String → Prop where
  | asked (name : String) : Chosen config (some name) name
  | current {name : String} (current : config.currentContext = some name) : Chosen config none name

theorem named?_eq_some_iff {entries : List (Named α)} {entry : Named α} :
    named? entries name = some entry ↔ FirstNamed entries name entry := by
  rw [named?, List.find?_eq_some_iff_append]
  simp only [beq_iff_eq, Bool.not_eq_eq_eq_not, Bool.not_true, beq_eq_false_iff_ne]
  exact ⟨fun found => ⟨found.1, found.2⟩, fun first => ⟨first.named, first.first⟩⟩

theorem named?_eq_none_iff {entries : List (Named α)} :
    named? entries name = none ↔ NoneNamed entries name := by
  simp only [named?, List.find?_eq_none, beq_iff_eq, NoneNamed, ne_eq]

theorem contextName?_eq_some_iff : config.contextName? asked = some name ↔ Chosen config asked name := by
  cases asked with
  | none =>
      constructor
      · exact .current
      · rintro (_ | current)
        exact current
  | some asked =>
      constructor
      · rintro ⟨⟩
        exact .asked name
      · rintro ⟨⟩
        rfl

theorem contextName?_eq_none_iff :
    config.contextName? asked = none ↔ asked = none ∧ config.currentContext = none := by
  simp only [contextName?, Option.or_eq_none_iff]

/-! ## Ways -/

/-- The chosen context names the cluster. -/
def Selects (config : Kubeconfig) (asked : Option String) (cluster : Named ServerEntry) : Prop :=
  ∃ name context reference, Chosen config asked name ∧ FirstNamed config.contexts name context ∧
    context.body = some reference ∧ FirstNamed config.clusters reference.cluster cluster

def LeadsTo (config : Kubeconfig) (asked : Option String) (server : String) : Prop :=
  ∃ cluster entry, Selects config asked cluster ∧ cluster.body = some entry ∧
    entry.server = some server

/-- The way breaks off, and the text tells where. -/
inductive BreaksOff (config : Kubeconfig) (asked : Option String) : String → Prop where
  | noContext (unasked : asked = none) (noCurrent : config.currentContext = none) :
      BreaksOff config asked "No context specified and no current-context"
  | unknownContext {name : String} (chosen : Chosen config asked name)
      (unknown : NoneNamed config.contexts name) :
      BreaksOff config asked ("Context '" ++ name ++ "' not found")
  | noReference {name : String} {context : Named ContextEntry} (chosen : Chosen config asked name)
      (first : FirstNamed config.contexts name context) (missing : context.body = none) :
      BreaksOff config asked "Context has no cluster reference"
  | unknownCluster {name : String} {context : Named ContextEntry} {reference : ContextEntry}
      (chosen : Chosen config asked name) (first : FirstNamed config.contexts name context)
      (body : context.body = some reference)
      (unknown : NoneNamed config.clusters reference.cluster) :
      BreaksOff config asked ("Cluster '" ++ reference.cluster ++ "' not found")
  | noServer {cluster : Named ServerEntry} (selected : Selects config asked cluster)
      (missing : ∀ entry, cluster.body = some entry → entry.server = none) :
      BreaksOff config asked "Cluster has no server URL"

theorem apiServer_of_leadsTo (leads : LeadsTo config asked server) :
    config.apiServer asked = .ok server := by
  rcases leads with ⟨cluster, entry, ⟨name, context, reference, chosen, first, body, second⟩,
    entryBody, given⟩
  rw [← contextName?_eq_some_iff] at chosen
  rw [← named?_eq_some_iff] at first second
  simp only [apiServer, chosen, first, body, second, entryBody, given, Option.bind_some]
  rfl

/-- A way leads to one server. -/
theorem LeadsTo.unique {other : String} (first : LeadsTo config asked server)
    (second : LeadsTo config asked other) : server = other :=
  Except.ok.inj ((apiServer_of_leadsTo first).symm.trans (apiServer_of_leadsTo second))

theorem apiServer_of_breaksOff {text : String} (breaks : BreaksOff config asked text) :
    ∃ fault, config.apiServer asked = .error fault ∧ fault.text = text := by
  cases breaks with
  | noContext unasked noCurrent =>
      have chosen := contextName?_eq_none_iff.mpr ⟨unasked, noCurrent⟩
      refine ⟨.noContext, ?_, rfl⟩
      simp only [apiServer, chosen]
      rfl
  | @unknownContext name chosen unknown =>
      rw [← contextName?_eq_some_iff] at chosen
      rw [← named?_eq_none_iff] at unknown
      refine ⟨.unknownContext name, ?_, rfl⟩
      simp only [apiServer, chosen, unknown]
      rfl
  | noReference chosen first missing =>
      rw [← contextName?_eq_some_iff] at chosen
      rw [← named?_eq_some_iff] at first
      refine ⟨.noClusterReference, ?_, rfl⟩
      simp only [apiServer, chosen, first, missing]
      rfl
  | @unknownCluster name context reference chosen first body unknown =>
      rw [← contextName?_eq_some_iff] at chosen
      rw [← named?_eq_some_iff] at first
      rw [← named?_eq_none_iff] at unknown
      refine ⟨.unknownCluster reference.cluster, ?_, rfl⟩
      simp only [apiServer, chosen, first, body, unknown]
      rfl
  | @noServer cluster selected missing =>
      rcases selected with ⟨name, context, reference, chosen, first, body, second⟩
      rw [← contextName?_eq_some_iff] at chosen
      rw [← named?_eq_some_iff] at first second
      have absent : cluster.body.bind (·.server) = none := Option.bind_eq_none_iff.mpr missing
      refine ⟨.noServer, ?_, rfl⟩
      simp only [apiServer, chosen, first, body, second, absent]
      rfl

/-- A way leads to a server or breaks off. -/
theorem leadsTo_or_breaksOff (config : Kubeconfig) (asked : Option String) :
    (∃ server, LeadsTo config asked server) ∨ ∃ text, BreaksOff config asked text := by
  cases chosen : config.contextName? asked with
  | none =>
      rw [contextName?_eq_none_iff] at chosen
      exact .inr ⟨_, .noContext chosen.1 chosen.2⟩
  | some name =>
  rw [contextName?_eq_some_iff] at chosen
  cases first : named? config.contexts name with
  | none => exact .inr ⟨_, .unknownContext chosen (named?_eq_none_iff.mp first)⟩
  | some context =>
  rw [named?_eq_some_iff] at first
  cases body : context.body with
  | none => exact .inr ⟨_, .noReference chosen first body⟩
  | some reference =>
  cases second : named? config.clusters reference.cluster with
  | none => exact .inr ⟨_, .unknownCluster chosen first body (named?_eq_none_iff.mp second)⟩
  | some cluster =>
  have selected : Selects config asked cluster :=
    ⟨name, context, reference, chosen, first, body, named?_eq_some_iff.mp second⟩
  cases given : cluster.body.bind (·.server) with
  | none => exact .inr ⟨_, .noServer selected (Option.bind_eq_none_iff.mp given)⟩
  | some server =>
      rcases Option.bind_eq_some_iff.mp given with ⟨entry, entryBody, given⟩
      exact .inl ⟨server, cluster, entry, selected, entryBody, given⟩

theorem apiServer_eq_ok_iff : config.apiServer asked = .ok server ↔ LeadsTo config asked server := by
  refine ⟨fun found => ?_, apiServer_of_leadsTo⟩
  rcases leadsTo_or_breaksOff config asked with ⟨other, leads⟩ | ⟨_, breaks⟩
  · cases found.symm.trans (apiServer_of_leadsTo leads)
    exact leads
  · rcases apiServer_of_breaksOff breaks with ⟨_, failed, -⟩
    cases found.symm.trans failed

theorem apiServer_eq_error_iff {fault : ClusterFault} :
    (config.apiServer asked).mapError KubeconfigFault.toCluster = .error fault ↔
      ∃ text, fault = .invalidKubeconfig text ∧ BreaksOff config asked text := by
  rw [mapError_eq_error]
  constructor
  · rintro ⟨found, failed, rfl⟩
    rcases leadsTo_or_breaksOff config asked with ⟨_, leads⟩ | ⟨_, breaks⟩
    · cases failed.symm.trans (apiServer_of_leadsTo leads)
    · rcases apiServer_of_breaksOff breaks with ⟨_, failedThere, rfl⟩
      cases failed.symm.trans failedThere
      exact ⟨_, rfl, breaks⟩
  · rintro ⟨_, rfl, breaks⟩
    rcases apiServer_of_breaksOff breaks with ⟨found, failed, rfl⟩
    exact ⟨found, failed, rfl⟩

/-! ## Connectors -/

/-- Requests go to the server of the entry that the chosen context names. -/
def GoesByFirst (connector : Connector) : Prop :=
  ∀ directory config asked location, connector.configure directory config asked = .ok location →
    ∃ server, LeadsTo config asked server ∧ Location.parse? server = some location

theorem selects_of_entries? {entry : ServerEntry} {user : UserEntry}
    (found : config.entries? asked = some (entry, user)) :
    ∃ cluster, Selects config asked cluster ∧ cluster.body = some entry := by
  simp only [entries?, Option.bind_eq_bind, Option.bind_eq_some_iff, contextName?_eq_some_iff,
    named?_eq_some_iff, Option.some.injEq, Prod.mk.injEq] at found
  rcases found with ⟨name, chosen, context, first, reference, body, cluster, second, _, entryBody,
    rfl, -⟩
  exact ⟨cluster, ⟨name, context, reference, chosen, first, body, second⟩, entryBody⟩

theorem goesByFirst_plain (files : Files.Tree) : GoesByFirst (.plain files) := by
  intro directory config asked location configured
  simp only [Connector.plain, configurePlain] at configured
  cases found : config.entries? asked with
  | none =>
      rw [found] at configured
      cases configured
  | some entries =>
      rcases entries with ⟨entry, user⟩
      simp only [found] at configured
      cases parsed : entry.server.bind Location.parse? with
      | none =>
          rw [parsed] at configured
          cases configured
      | some other =>
          simp only [parsed, unless_eq_ok] at configured
          rcases configured with ⟨-, -, ⟨⟩⟩
          rcases selects_of_entries? found with ⟨cluster, selected, body⟩
          rcases Option.bind_eq_some_iff.mp parsed with ⟨server, given, read⟩
          exact ⟨server, ⟨cluster, entry, selected, body, given⟩, read⟩

end Kubeconfig

end Tenancy
