import Tenancy.Proofs.Gateway.Clusters
import Tenancy.Proofs.History.Change

/-! What is registered is on its cluster. A registration enters a name only once the cluster has it,
and no cluster ever loses a name, so giving a registration up and taking it again creates nothing
anew. -/

namespace Tenancy

open Readable Registry

/-- The name an exchange put on a cluster: that of a create which succeeded. -/
def Exchange.created? : Exchange → Option (Int64 × String)
  | ⟨.create cluster name, .ok _⟩ => some (cluster, name)
  | _ => none

section

variable [Store σ]

def Operation.transcript : Operation → World σ Clusters → List Exchange
  | request asked, world => asked.procedure.transcript World.answering world
  | _, _ => []

namespace World

/-- What the requests of a history asked of the store and the clusters, and were told. -/
def transcript (world : World σ Clusters) : List Operation → List Exchange
  | [] => []
  | operation :: rest =>
      operation.transcript world ++ (operation.perform world).2.transcript rest

/-- The creates that succeeded in the course of a history, in order. -/
def created (world : World σ Clusters) (history : List Operation) : List (Int64 × String) :=
  (world.transcript history).filterMap Exchange.created?

end World

end

/-! ## Creates -/

/-- What was created was absent before, is there now, and was created once. -/
structure Clusters.Creates (before after : Clusters) (created : List (Int64 × String)) : Prop where
  grows : before.Grows after
  once : created.Nodup
  absent : ∀ pair ∈ created, pair ∉ before.present
  present : ∀ pair ∈ created, pair ∈ after.present

namespace Clusters.Creates

variable {before middle after : Clusters} {earlier later : List (Int64 × String)}

theorem nothing (grows : before.Grows after) : before.Creates after [] :=
  ⟨grows, .nil, fun _ member => absurd member List.not_mem_nil,
    fun _ member => absurd member List.not_mem_nil⟩

/-- What is created later was absent in between, where all that was created earlier is present. -/
theorem trans (first : before.Creates middle earlier) (second : middle.Creates after later) :
    before.Creates after (earlier ++ later) := by
  refine ⟨first.grows.trans second.grows, ?_, ?_, ?_⟩
  · apply List.nodup_append.mpr
    refine ⟨first.once, second.once, ?_⟩
    intro pair earlierMember other laterMember equal
    exact second.absent other laterMember (equal ▸ first.present pair earlierMember)
  · intro pair member
    rcases List.mem_append.mp member with earlierMember | laterMember
    · exact first.absent pair earlierMember
    · exact fun present => second.absent pair laterMember (first.grows.present present)
  · intro pair member
    rcases List.mem_append.mp member with earlierMember | laterMember
    · exact second.grows.present (first.present pair earlierMember)
    · exact second.present pair laterMember

end Clusters.Creates

/-! ## Creates of a run -/

namespace World

variable [Store σ] {world : World σ Clusters}

/-- The creates that succeeded in one run. -/
def creates (world : World σ Clusters) (procedure : Procedure α) : List (Int64 × String) :=
  (procedure.transcript answering world).filterMap Exchange.created?

theorem creates_ask (world : World σ Clusters) (call : Call)
    (resume : call.Answer → Procedure α) :
    world.creates (.ask call resume) =
      (Exchange.created? ⟨call, (answering call world).1⟩).toList ++
        (answering call world).2.creates (resume (answering call world).1) := by
  rw [creates, Procedure.transcript, List.filterMap_cons]
  cases Exchange.created? ⟨call, (answering call world).1⟩ <;> rfl

/-- A create that succeeds is counted, and its name is there from then on. -/
theorem answering_of_created? {call : Call} {pair : Int64 × String}
    (created : Exchange.created? ⟨call, (answering call world).1⟩ = some pair) :
    pair ∈ (answering call world).2.gateway.present ∧
      (answering call world).2.gateway.createCalls = world.gateway.createCalls + 1 := by
  cases call with
  | create cluster name =>
      simp only [answering, Gateway.create] at created ⊢
      cases answered : world.gateway.create cluster name with
      | mk answer after =>
          rw [answered] at created
          cases answer with
          | error error => cases created
          | ok done =>
              cases created
              refine ⟨(Clusters.isPresent_iff.mp (Clusters.isPresent_of_create answered)).2, ?_⟩
              rw [← Clusters.createCalls_create, answered]
  | findByPair | findById | listAll | insert | delete | grantsOf | findUser | hasActive
  | isPresent => cases created

theorem present_of_creates {procedure : Procedure α} {pair : Int64 × String}
    (member : pair ∈ world.creates procedure) :
    pair ∈ (world.run procedure).2.gateway.present := by
  induction procedure generalizing world with
  | done value => cases member
  | ask call resume induction =>
      rw [creates_ask, List.mem_append, Option.mem_toList] at member
      rcases member with first | later
      · have grows := grows_run (answering call world).2 (resume (answering call world).1)
        exact grows.present (answering_of_created? first).1
      · exact induction _ later

theorem length_creates_le (world : World σ Clusters) (procedure : Procedure α) :
    world.gateway.createCalls + (world.creates procedure).length ≤
      (world.run procedure).2.gateway.createCalls := by
  induction procedure generalizing world with
  | done value => exact Nat.le_refl _
  | ask call resume induction =>
      have rest := induction (answering call world).1 (answering call world).2
      refine Nat.le_trans ?_ rest
      rw [creates_ask, List.length_append]
      cases created : Exchange.created? ⟨call, (answering call world).1⟩ with
      | none =>
          have counted := (grows_answering call world).createCalls
          rw [Option.toList_none, List.length_nil]
          omega
      | some pair =>
          have counted := (answering_of_created? created).2
          rw [Option.toList_some, List.length_singleton]
          omega

theorem creates_map (transform : α → β) (procedure : Procedure α) :
    world.creates (procedure.map transform) = world.creates procedure :=
  congrArg (List.filterMap Exchange.created?) (procedure.transcript_map transform world)

theorem creates_enter (caller : Principal) (name : String) (cluster : Int64) (stamp : Stamp) :
    world.creates (enter caller name cluster stamp) = [] := by
  rw [enter, creates_ask]
  cases (answering (.insert (draft caller name cluster stamp)) world).1 with
  | ok registration => rfl
  | error error => cases error <;> rfl

/-- The gateway is asked to create a name only after it has said that the name is not there. -/
theorem creates_register (caller : Principal) (name : String) (cluster : Int64) (stamp : Stamp) :
    world.creates (register caller name cluster stamp) = [] ∨
      world.creates (register caller name cluster stamp) = [(cluster, name)] ∧
        (cluster, name) ∉ world.gateway.present := by
  unfold register
  cases Name.check name with
  | error fault => exact .inl rfl
  | ok _ =>
      simp only [creates_ask, answering]
      cases Store.findByPair world.store name cluster with
      | error error => exact .inl rfl
      | ok found =>
          cases found with
          | some registration => exact .inl rfl
          | none =>
              simp only [creates_ask, answering, Gateway.isPresent]
              cases there : world.gateway.isPresent cluster name with
              | error error => exact .inl rfl
              | ok present =>
                  cases present with
                  | true => exact .inl (creates_enter ..)
                  | false =>
                      simp only [creates_ask, answering]
                      cases (Gateway.create world.gateway cluster name).1 with
                      | error error => exact .inl rfl
                      | ok done =>
                          simp only [creates_enter]
                          exact .inr ⟨rfl, Clusters.absent_of_isPresent there⟩

end World

/-! ## Creates of a history -/

section

variable [Store σ] [Readable σ] [LawfulStore σ] {world : World σ Clusters}

/-- Only a registration acts on the gateway. -/
theorem gateway_request (sound : Sound world.store) (asked : RegistryRequest) :
    (∃ caller name cluster stamp, asked = .register caller name cluster stamp) ∨
      (world.run asked.procedure).2.gateway = world.gateway := by
  rcases request_cases sound asked with registers | ⟨caller, id, rfl⟩ | ⟨unchanged, _⟩
  · exact .inl registers
  · simp only [RegistryRequest.procedure, World.run_map]
    rcases deregister_cases sound caller id with ⟨error, ran⟩ | ⟨next, ran, _⟩ <;>
      exact .inr (congrArg (·.2.gateway) ran)
  · exact .inr (congrArg World.gateway unchanged)

/-- A request creates at most one name, and one that was not there. -/
theorem creates_request (sound : Sound world.store) (asked : RegistryRequest) :
    world.gateway.Creates (world.run asked.procedure).2.gateway
      (world.creates asked.procedure) := by
  have grows := world.grows_run asked.procedure
  have present (pair : Int64 × String) (member : pair ∈ world.creates asked.procedure) :
      pair ∈ (world.run asked.procedure).2.gateway.present :=
    World.present_of_creates member
  rcases gateway_request sound asked with ⟨caller, name, cluster, stamp, rfl⟩ | unchanged
  · generalize world.run _ = result at grows present ⊢
    rw [RegistryRequest.procedure, World.creates_map] at present ⊢
    rcases world.creates_register caller name cluster stamp with none | ⟨one, absent⟩
    · rw [none]
      exact .nothing grows
    · rw [one] at present ⊢
      refine ⟨grows, List.nodup_singleton _, ?_, present⟩
      intro pair member
      exact List.mem_singleton.mp member ▸ absent
  · have counted := world.length_creates_le asked.procedure
    rw [unchanged] at counted
    have none : world.creates asked.procedure = [] := List.length_eq_zero_iff.mp (by omega)
    rw [none]
    exact .nothing grows

theorem creates_perform (sound : Sound world.store) (operation : Operation) :
    world.gateway.Creates (operation.perform world).2.gateway
      ((operation.transcript world).filterMap Exchange.created?) := by
  cases operation with
  | request asked => exact creates_request sound asked
  | seed cluster name => exact .nothing (world.gateway.grows_seed cluster name)
  | failNextCreate => exact .nothing world.gateway.grows_failNextCreate
  | insert | delete | findByPair | findById | listAll | grant | revoke
  | setWorkload | addUser => exact .nothing (.refl _)

/-- Whatever is done, no name is created twice, and none that was there before. -/
theorem creates_after (sound : Sound world.store) (history : List Operation) :
    world.gateway.Creates (world.after history).gateway (world.created history) := by
  induction history generalizing world with
  | nil => exact .nothing (.refl _)
  | cons operation rest induction =>
      rw [World.created, World.transcript, List.filterMap_append]
      exact (creates_perform sound operation).trans (induction (change_perform sound operation).1)

end

/-! ## Registered names -/

/-- Every record is of a name that is on its cluster. -/
def World.Placed [Readable σ] (world : World σ Clusters) : Prop :=
  ∀ record ∈ (contents world.store).records,
    world.gateway.isPresent record.cluster record.name = .ok true

section

variable [Store σ] [Readable σ] [LawfulStore σ] {world : World σ Clusters}

theorem placed_perform (placed : world.Placed) (sound : Sound world.store) {operation : Operation}
    (other : ∀ draft, operation ≠ .insert draft) : (operation.perform world).2.Placed := by
  have grows := (creates_perform sound operation).grows
  intro record member
  rcases (change_perform sound operation).2.records_cases with
    same | ⟨caller, name, cluster, stamp, entered, rfl, answered, enters⟩ |
      ⟨draft, inserted, inserts, _⟩ | ⟨id, _, fewer⟩
  · exact grows.isPresent (placed record (same ▸ member))
  · rw [enters.rest] at member
    rcases List.mem_append.mp member with earlier | last
    · exact grows.isPresent (placed record earlier)
    · have ok : (world.run (register caller name cluster stamp)).1 = .ok entered := by
        rw [Operation.perform_register] at answered
        cases ran : (world.run (register caller name cluster stamp)).1 with
        | error error => simp [ran, Except.map] at answered
        | ok record => simpa [ran, Except.map] using answered
      have pair : record.name = name ∧ record.cluster = cluster := by
        rw [List.mem_singleton.mp last]
        exact Prod.mk.inj enters.pair
      rw [Operation.perform_register, pair.1, pair.2]
      exact Clusters.isPresent_of_provide (calls_of_registered world ok).1
  · exact absurd inserts (other draft)
  · rw [fewer] at member
    exact grows.isPresent (placed record (List.mem_filter.mp member).1)

theorem placed_after (placed : world.Placed) (sound : Sound world.store) {history : List Operation}
    (others : ∀ draft, .insert draft ∉ history) : (world.after history).Placed := by
  induction history generalizing world with
  | nil => exact placed
  | cons operation rest induction =>
      apply induction
      · apply placed_perform placed sound
        intro draft equal
        exact others draft (equal ▸ List.mem_cons_self)
      · exact (change_perform sound operation).1
      · intro draft member
        exact others draft (List.mem_cons_of_mem operation member)

end

/-- Over either back end, and whatever the clusters held at first: where records come in by
registration only, each is of a name that is on its cluster. Whatever is done, a name that is on a
cluster stays there, so no name is created twice. -/
theorem registered_names_are_present (backEnd : BackEnd) (clusters : Clusters)
    (history : List Operation) :
    let start := backEnd.start clusters
    let world := start.after history
    ((∀ draft, .insert draft ∉ history) → ∃ records, Store.listAll world.store = .ok records ∧
      ∀ record ∈ records, world.gateway.isPresent record.cluster record.name = .ok true) ∧
    (∀ later cluster name, world.gateway.isPresent cluster name = .ok true →
      (world.after later).gateway.isPresent cluster name = .ok true) ∧
    (start.created history).Nodup := by
  intro start world
  have soundStart : Sound start.store := backEnd.sound_fresh
  have sound : Sound world.store := backEnd.sound_after clusters history
  refine ⟨?_, ?_, (creates_after soundStart history).once⟩
  · intro others
    have placedStart : start.Placed := by
      intro record member
      have none : contents start.store = .empty := backEnd.contents_fresh
      rw [none] at member
      cases member
    exact ⟨_, LawfulStore.listAll sound, placed_after placedStart soundStart others⟩
  · intro later cluster name there
    exact (creates_after sound later).grows.isPresent there

/-- Alice is refused once, registers the name and gives it up, and Bob takes it. -/
def passedOn : List Operation := [
  .failNextCreate,
  .request (.register ⟨1, "alice", .general⟩ "team-x" 100 ⟨1, .epoch⟩),
  .request (.register ⟨1, "alice", .general⟩ "team-x" 100 ⟨2, .epoch⟩),
  .request (.deregister ⟨1, "alice", .general⟩ 1),
  .request (.register ⟨2, "bob", .general⟩ "team-x" 100 ⟨3, .epoch⟩)]

theorem name_passed_on_is_present :
    let start := BackEnd.database.start (.withCodes [100])
    let world := start.after passedOn
    (∃ records, Store.listAll world.store = .ok records ∧
      ∀ record ∈ records, world.gateway.isPresent record.cluster record.name = .ok true) ∧
    (world.after [.request (.deregister ⟨2, "bob", .general⟩ 2)]).gateway.isPresent 100 "team-x" =
      .ok true ∧
    start.created passedOn = [(100, "team-x")] := by
  intro start world
  have general := registered_names_are_present .database (.withCodes [100]) passedOn
  refine ⟨?_, ?_, by decide +kernel⟩
  · apply general.1
    intro draft member
    simp [passedOn] at member
  · exact general.2.1 _ 100 "team-x" (by decide +kernel)

end Tenancy
