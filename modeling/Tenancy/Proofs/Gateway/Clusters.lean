import Tenancy.Gateway.Clusters
import Tenancy.Proofs.Registry.Placing
import Tenancy.Proofs.Transcript

/-! Clusters kept in memory only ever gain names. -/

namespace Tenancy

namespace Clusters

/-! ## Presence -/

theorem isPresent_iff {clusters : Clusters} {cluster : Int64} {name : String} :
    clusters.isPresent cluster name = .ok true ↔
      cluster ∈ clusters.known ∧ (cluster, name) ∈ clusters.present := by
  by_cases known : cluster ∈ clusters.known <;> simp [isPresent, known]

theorem absent_of_isPresent {clusters : Clusters} {cluster : Int64} {name : String}
    (absent : clusters.isPresent cluster name = .ok false) :
    (cluster, name) ∉ clusters.present := by
  by_cases known : cluster ∈ clusters.known
  · simpa [isPresent, known] using absent
  · simp [isPresent, known] at absent

/-- Nothing known or present is lost, and no create that was counted. -/
structure Grows (before after : Clusters) : Prop where
  known : before.known ⊆ after.known
  present : before.present ⊆ after.present
  createCalls : before.createCalls ≤ after.createCalls

variable {before middle after clusters : Clusters}

theorem Grows.refl (clusters : Clusters) : clusters.Grows clusters :=
  ⟨List.Subset.refl _, List.Subset.refl _, Nat.le_refl _⟩

theorem Grows.trans (first : before.Grows middle) (second : middle.Grows after) :
    before.Grows after :=
  ⟨List.Subset.trans first.known second.known, List.Subset.trans first.present second.present,
    Nat.le_trans first.createCalls second.createCalls⟩

theorem Grows.isPresent {cluster : Int64} {name : String} (grows : before.Grows after)
    (there : before.isPresent cluster name = .ok true) :
    after.isPresent cluster name = .ok true := by
  rw [isPresent_iff] at there ⊢
  exact ⟨grows.known there.1, grows.present there.2⟩

theorem grows_seed (clusters : Clusters) (cluster : Int64) (name : String) :
    clusters.Grows (clusters.seed cluster name) := by
  constructor
  · intro code member
    simp only [seed]
    split <;> simp [member]
  · intro pair member
    simp only [seed]
    split <;> simp [member]
  · exact Nat.le_refl _

theorem grows_failNextCreate (clusters : Clusters) : clusters.Grows clusters.failNextCreate :=
  ⟨List.Subset.refl _, List.Subset.refl _, Nat.le_refl _⟩

theorem isPresent_seed (clusters : Clusters) (cluster : Int64) (name : String) :
    (clusters.seed cluster name).isPresent cluster name = .ok true := by
  rw [isPresent_iff]
  simp only [seed]
  constructor
  · split <;> simp [*]
  · split <;> simp [*]

theorem grows_create (clusters : Clusters) (cluster : Int64) (name : String) :
    clusters.Grows (clusters.create cluster name).2 := by
  let counted := { clusters with createCalls := clusters.createCalls + 1, failNext := false }
  have counts : clusters.Grows counted :=
    ⟨List.Subset.refl _, List.Subset.refl _, Nat.le_succ _⟩
  simp only [create]
  split
  · exact counts
  split
  · exact counts.trans (counted.grows_seed cluster name)
  · exact counts

theorem isPresent_of_create {cluster : Int64} {name : String}
    (created : clusters.create cluster name = (.ok (), after)) :
    after.isPresent cluster name = .ok true := by
  simp only [create] at created
  split at created
  · cases created
  split at created
  · cases created
    exact isPresent_seed _ cluster name
  · cases created

/-- Every create counts, whatever comes of it. -/
theorem createCalls_create (clusters : Clusters) (cluster : Int64) (name : String) :
    (clusters.create cluster name).2.createCalls = clusters.createCalls + 1 := by
  simp only [create]
  split
  · rfl
  split <;> rfl

/-- Only what was named is new on the clusters. -/
theorem mem_present_create {cluster : Int64} {name : String} {pair : Int64 × String}
    (member : pair ∈ (clusters.create cluster name).2.present) :
    pair ∈ clusters.present ∨ pair = (cluster, name) := by
  simp only [create] at member
  split at member
  · exact .inl member
  split at member
  · simp only [seed] at member
    split at member
    · exact .inl member
    · simpa using member
  · exact .inl member

theorem known_create (clusters : Clusters) (cluster : Int64) (name : String) :
    (clusters.create cluster name).2.known = clusters.known := by
  simp only [create]
  split
  · rfl
  split
  · next known => exact if_pos known
  · rfl

/-- The gateway knows the cluster and does not refuse the next create. -/
structure Willing (clusters : Clusters) (cluster : Int64) : Prop where
  known : cluster ∈ clusters.known
  unplanned : clusters.failNext = false

theorem Willing.create {cluster : Int64} (willing : clusters.Willing cluster) (name : String) :
    ∃ created, clusters.create cluster name = (.ok (), created) ∧ created.Willing cluster := by
  simp only [Clusters.create, willing.unplanned, if_pos willing.known, Bool.false_eq_true, if_false]
  refine ⟨_, rfl, ?_, rfl⟩
  simp only [seed, if_pos willing.known]
  exact willing.known

/-! ## Providing -/

open Registry

/-- A create is asked for exactly where the name is missing. -/
theorem Willing.provides {cluster : Int64} (willing : clusters.Willing cluster) (name : String) :
    ∃ gateway, provide clusters cluster name = (.ok (), gateway) ∧
      gateway.createCalls = clusters.createCalls +
        if clusters.isPresent cluster name = .ok true then 0 else 1 := by
  by_cases there : clusters.isPresent cluster name = .ok true
  · refine ⟨clusters, ?_, by rw [if_pos there, Nat.add_zero]⟩
    simp only [provide, Gateway.isPresent, there]
  · have absent : (cluster, name) ∉ clusters.present :=
      fun member => there (isPresent_iff.mpr ⟨willing.known, member⟩)
    have missing : clusters.isPresent cluster name = .ok false := by
      simp [isPresent, willing.known, absent]
    rcases willing.create name with ⟨created, creates, _⟩
    refine ⟨created, ?_, ?_⟩
    · simp only [provide, Gateway.isPresent, missing]
      exact creates
    · rw [if_neg there, ← clusters.createCalls_create cluster name, creates]

theorem isPresent_of_provide {cluster : Int64} {name : String}
    (provided : provide clusters cluster name = (.ok (), after)) :
    after.isPresent cluster name = .ok true := by
  simp only [provide, Gateway.isPresent] at provided
  cases there : clusters.isPresent cluster name with
  | error error =>
      rw [there] at provided
      cases provided
  | ok present =>
      rw [there] at provided
      cases present with
      | true =>
          cases provided
          exact there
      | false => exact isPresent_of_create provided

end Clusters

/-! ## Runs -/

namespace World

variable [Store σ] {world : World σ Clusters}

theorem grows_answering (call : Call) (world : World σ Clusters) :
    world.gateway.Grows (answering call world).2.gateway := by
  cases call with
  | create cluster name => exact world.gateway.grows_create cluster name
  | findByPair | findById | listAll | insert | delete | grantsOf | findUser | hasActive
  | isPresent => exact .refl _

theorem grows_run (world : World σ Clusters) (procedure : Procedure α) :
    world.gateway.Grows (world.run procedure).2.gateway := by
  have kept (call : Call) (after : World σ Clusters) (grows : world.gateway.Grows after.gateway) :
      world.gateway.Grows (answering call after).2.gateway :=
    grows.trans (grows_answering call after)
  exact procedure.run_invariant kept (.refl _)

end World

end Tenancy
