import Tenancy.Fault
import Tenancy.Proofs.Gateway.Clusters
import Tenancy.Proofs.History.Change

/-! Trying again. An attempt to register a name that fails, at whichever call, leaves the store as
it was, though its cluster may have got the name. So after any number of them the next attempt finds
what the first one found, save that it may have nothing left to create. -/

namespace Tenancy

open Readable Registry

/-! ## Failed attempts -/

/-- The run of a procedure in which calls may get planned outcomes in place of their own. -/
def World.runFaulty [Store σ] [Gateway γ] (world : World σ γ)
    (planned : List (CallKind × Outcome)) (procedure : Procedure α) : α × World σ γ :=
  let (value, faulty) := procedure.run (Faulty.answering World.answering) ⟨world, planned⟩
  (value, faulty.world)

/-- Any number of attempts at one name have failed, whoever made them and whatever went wrong.
Between them names may have been put on clusters from outside, and creates may be refused. -/
inductive Setbacks [Store σ] (name : String) (cluster : Int64) (world : World σ Clusters) :
    World σ Clusters → Prop
  | none : Setbacks name cluster world world
  | failed {stalled : World σ Clusters} (earlier : Setbacks name cluster world stalled)
      (caller : Principal) (stamp : Stamp) (planned : List (CallKind × Outcome))
      {error : RegistryError}
      (fails : (stalled.runFaulty planned (register caller name cluster stamp)).1 =
        .error error) :
      Setbacks name cluster world
        (stalled.runFaulty planned (register caller name cluster stamp)).2
  | seeded {stalled : World σ Clusters} (earlier : Setbacks name cluster world stalled)
      (elsewhere : Int64) (seen : String) :
      Setbacks name cluster world
        { stalled with gateway := stalled.gateway.seed elsewhere seen }
  | refusing {stalled : World σ Clusters} (earlier : Setbacks name cluster world stalled) :
      Setbacks name cluster world { stalled with gateway := stalled.gateway.failNextCreate }

/-- A call that leaves the store alone. -/
def Call.Reads : Call → Prop
  | .insert _ | .delete _ => False
  | _ => True

/-- The store is written to by one insert at most. It comes last, and it decides the outcome. -/
inductive Procedure.EntersLast : Attempt α → Prop
  | done (outcome : Except RegistryError α) : EntersLast (.done outcome)
  | ask {call : Call} {resume : call.Answer → Attempt α} (reads : call.Reads)
      (rest : ∀ answer, EntersLast (resume answer)) : EntersLast (.ask call resume)
  | entry {draft : Draft} {resume : Except StoreError Registration → Attempt α}
      (entered : ∀ record, ∃ value, resume (.ok record) = .succeed value)
      (refused : ∀ error, ∃ refusal, resume (.error error) = .fail refusal) :
      EntersLast (.ask (.insert draft) resume)

theorem entersLast_enter (caller : Principal) (name : String) (cluster : Int64) (stamp : Stamp) :
    (enter caller name cluster stamp).EntersLast := by
  apply Procedure.EntersLast.entry
  · intro record
    exact ⟨record, rfl⟩
  · intro error
    cases error <;> exact ⟨_, rfl⟩

theorem entersLast_register (caller : Principal) (name : String) (cluster : Int64)
    (stamp : Stamp) : (register caller name cluster stamp).EntersLast := by
  unfold register
  cases Name.check name with
  | error fault => exact .done _
  | ok _ =>
      refine Procedure.EntersLast.ask trivial ?_
      intro looked
      rcases looked with error | found
      · exact .done _
      cases found with
      | some record => exact .done _
      | none =>
          refine Procedure.EntersLast.ask trivial ?_
          intro asked
          rcases asked with error | present
          · exact .done _
          cases present with
          | true => exact entersLast_enter ..
          | false =>
              refine Procedure.EntersLast.ask trivial ?_
              intro created
              rcases created with error | _
              · exact .done _
              · exact entersLast_enter ..

namespace World

variable [Store σ]

theorem store_answering [Gateway γ] {call : Call} (reads : call.Reads) (world : World σ γ) :
    (answering call world).2.store = world.store := by
  cases call with
  | insert | delete => cases reads
  | findByPair | findById | listAll | grantsOf | findUser | hasActive | isPresent | create => rfl

/-- Where the outcome of a call was planned, nothing was done. -/
theorem faulty_answering [Gateway γ] (call : Call) (faulty : Faulty (World σ γ)) :
    (Faulty.answering answering call faulty).2.world = faulty.world ∨
      (Faulty.answering answering call faulty).2.world = (answering call faulty.world).2 := by
  simp only [Faulty.answering]
  cases faulty.planned? call with
  | some answer => exact .inl rfl
  | none => exact .inr rfl

theorem grows_runFaulty (world : World σ Clusters) (planned : List (CallKind × Outcome))
    (procedure : Procedure α) :
    world.gateway.Grows (world.runFaulty planned procedure).2.gateway := by
  have kept (call : Call) (after : Faulty (World σ Clusters))
      (grows : world.gateway.Grows after.world.gateway) :
      world.gateway.Grows (Faulty.answering answering call after).2.world.gateway := by
    rcases faulty_answering call after with idle | acted
    · rw [idle]
      exact grows
    · rw [acted]
      exact grows.trans (grows_answering call after.world)
  exact procedure.run_invariant kept (.refl _)

end World

section

variable [Store σ] [Readable σ] [LawfulStore σ]

theorem store_of_refused [Gateway γ] {draft : Draft} {error : StoreError}
    {faulty : Faulty (World σ γ)} (sound : Sound faulty.world.store)
    (refused : (Faulty.answering World.answering (.insert draft) faulty).1 = .error error) :
    (Faulty.answering World.answering (.insert draft) faulty).2.world.store =
      faulty.world.store := by
  simp only [Faulty.answering] at refused ⊢
  cases planned : faulty.planned? (.insert draft) with
  | some answer => rfl
  | none =>
      have outcome := LawfulStore.insert sound draft
      simp only [planned, World.answering] at refused ⊢
      generalize Store.insert faulty.world.store draft = result at outcome refused ⊢
      cases outcome with
      | conflict | failed => rfl
      | entered => cases refused

/-- An attempt that fails has not got to its insert, or the insert was refused. -/
theorem store_of_failed [Gateway γ] {attempt : Attempt α} {error : RegistryError}
    {faulty : Faulty (World σ γ)} (entersLast : attempt.EntersLast)
    (sound : Sound faulty.world.store)
    (fails : (attempt.run (Faulty.answering World.answering) faulty).1 = .error error) :
    (attempt.run (Faulty.answering World.answering) faulty).2.world.store =
      faulty.world.store := by
  induction entersLast generalizing faulty with
  | done outcome => rfl
  | @ask call resume reads rest induction =>
      have same : (Faulty.answering World.answering call faulty).2.world.store =
          faulty.world.store := by
        rcases World.faulty_answering call faulty with idle | acted
        · rw [idle]
        · rw [acted, World.store_answering reads]
      exact (induction _ (same ▸ sound) fails).trans same
  | @entry draft resume entered refused =>
      simp only [Procedure.run] at fails ⊢
      cases answered : (Faulty.answering World.answering (.insert draft) faulty).1 with
      | ok record =>
          rcases entered record with ⟨value, finishes⟩
          rw [answered, finishes] at fails
          cases fails
      | error error =>
          rcases refused error with ⟨refusal, finishes⟩
          rw [finishes]
          exact store_of_refused sound answered

end

namespace Setbacks

variable [Store σ] {name : String} {cluster : Int64} {world stalled : World σ Clusters}

theorem store [Readable σ] [LawfulStore σ] (setbacks : Setbacks name cluster world stalled)
    (sound : Sound world.store) : stalled.store = world.store := by
  induction setbacks with
  | none => rfl
  | failed earlier caller stamp planned fails induction =>
      exact (store_of_failed (entersLast_register ..) (induction ▸ sound) fails).trans induction
  | seeded earlier elsewhere seen induction => exact induction
  | refusing earlier induction => exact induction

theorem grows (setbacks : Setbacks name cluster world stalled) :
    world.gateway.Grows stalled.gateway := by
  induction setbacks with
  | none => exact .refl _
  | @failed stalled earlier caller stamp planned error fails induction =>
      exact induction.trans (stalled.grows_runFaulty planned _)
  | @seeded stalled earlier elsewhere seen induction =>
      exact induction.trans (stalled.gateway.grows_seed elsewhere seen)
  | @refusing stalled earlier induction =>
      exact induction.trans stalled.gateway.grows_failNextCreate

end Setbacks

/-! ## The attempt that goes through -/

/-- The next attempt has entered the one record of the name. It has asked for a create if the name
was missing on the cluster, and for none otherwise. -/
structure Entered [Store σ] (caller : Principal) (name : String) (cluster : Int64)
    (before after : World σ Clusters) (record : Registration) : Prop where
  owner : record.owner = caller.id
  pair : record.pair = (name, cluster)
  records : ∃ records, Store.listAll before.store = .ok records ∧
    Store.listAll after.store = .ok (records ++ [record]) ∧
    (records ++ [record]).filter (·.isFor name cluster) = [record]
  creates : after.gateway.createCalls = before.gateway.createCalls +
    if before.gateway.isPresent cluster name = .ok true then 0 else 1

section

variable [Store σ] [Readable σ] [LawfulStore σ] {name : String} {cluster : Int64}
  {world : World σ Clusters} {record : Registration}

/-- An attempt at a free name on a cluster that is willing enters the name. -/
theorem register_of_free {caller : Principal} {stamp : Stamp} (sound : Sound world.store)
    (valid : Name.check name = .ok ()) (free : Store.findByPair world.store name cluster = .ok none)
    (willing : world.gateway.Willing cluster)
    (accepts : Accepts world.store (draft caller name cluster stamp)) :
    ∃ record, (world.run (register caller name cluster stamp)).1 = .ok record ∧
      Entered caller name cluster world (world.run (register caller name cluster stamp)).2
        record := by
  rcases willing.provides name with ⟨gateway, provided, counted⟩
  have outcome := LawfulStore.insert sound (draft caller name cluster stamp)
  have missing := free
  rw [LawfulStore.findByPair sound, Except.ok.injEq, List.find?_eq_none] at missing
  rw [run_register]
  simp only [valid, free, provided, run_enter]
  rw [Accepts] at accepts
  generalize Store.insert world.store (draft caller name cluster stamp) = result
    at outcome accepts ⊢
  cases outcome with
  | conflict text taken =>
      rcases taken with ⟨other, member, named⟩
      exact absurd named (missing other member)
  | failed text => exact absurd rfl (accepts text)
  | entered record next nextSound enters =>
      refine ⟨record, rfl, enters.owner, enters.pair, ?_, counted⟩
      have grown : (contents next).records = (contents world.store).records ++ [record] := by
        rw [enters.rest]
      refine ⟨_, LawfulStore.listAll sound, ?_, ?_⟩
      · rw [LawfulStore.listAll nextSound, grown]
      · rw [← grown]
        exact enters.filter_isFor

/-! ### What stays registered -/

/-- Only a deletion takes a record away. -/
theorem mem_perform {operation : Operation} (sound : Sound world.store)
    (member : record ∈ (contents world.store).records)
    (kept : operation.deleted? (operation.perform world).1 ≠ some record.id) :
    record ∈ (contents (operation.perform world).2.store).records := by
  rcases (change_perform sound operation).2.records_cases with
    same | ⟨_, _, _, _, _, _, _, enters⟩ | ⟨_, _, _, enters⟩ | ⟨id, deleted, fewer⟩
  · rw [same]
    exact member
  · rw [enters.rest]
    exact List.mem_append_left _ member
  · rw [enters.rest]
    exact List.mem_append_left _ member
  · rw [fewer, List.mem_filter, bne_iff_ne]
    refine ⟨member, ?_⟩
    intro equal
    exact kept (equal ▸ deleted)

theorem mem_after {history : List Operation} (sound : Sound world.store)
    (member : record ∈ (contents world.store).records)
    (kept : record.id ∉ world.deleted history) :
    record ∈ (contents (world.after history).store).records := by
  induction history generalizing world with
  | nil => exact member
  | cons operation rest induction =>
      rw [World.deleted, List.mem_append, Option.mem_toList, not_or] at kept
      exact induction (change_perform sound operation).1 (mem_perform sound member kept.1) kept.2

/-- A name that is registered cannot be registered again. -/
theorem register_of_registered (sound : Sound world.store) (valid : Name.check name = .ok ())
    (member : record ∈ (contents world.store).records) (pair : record.pair = (name, cluster))
    (caller : Principal) (stamp : Stamp) :
    world.run (register caller name cluster stamp) =
      (.error (alreadyRegistered name cluster), world) := by
  have found := ((LawfulStore.ordered sound).find?_pair name cluster record).mpr ⟨member, pair⟩
  simp only [run_register, valid, LawfulStore.findByPair sound, found]

end

/-- Over either back end, a name that is free stays so however often registering it fails, and the
store stays as it was. The first attempt that meets no fault enters the name, creates it only where
the cluster lacks it, and from then on every attempt is refused until the record is deleted. -/
theorem retry_registers_once (backEnd : BackEnd) (clusters : Clusters) (history : List Operation)
    (name : String) (cluster : Int64) (valid : Name.check name = .ok ()) :
    let world := (backEnd.start clusters).after history
    Store.findByPair world.store name cluster = .ok none → cluster ∈ world.gateway.known →
    ∀ stalled, Setbacks name cluster world stalled →
      stalled.store = world.store ∧
      ∀ caller stamp, stalled.gateway.failNext = false →
        Accepts stalled.store (draft caller name cluster stamp) →
        let after := (stalled.run (register caller name cluster stamp)).2
        ∃ record, (stalled.run (register caller name cluster stamp)).1 = .ok record ∧
          Entered caller name cluster stalled after record ∧
          ∀ later, record.id ∉ after.deleted later → ∀ other otherStamp,
            ((after.after later).run (register other name cluster otherStamp)).1 =
              .error (alreadyRegistered name cluster) := by
  intro world free known stalled setbacks
  have soundWorld : Sound world.store := backEnd.sound_after clusters history
  have store := setbacks.store soundWorld
  have sound : Sound stalled.store := store ▸ soundWorld
  refine ⟨store, ?_⟩
  intro caller stamp unplanned accepts after
  have willing : stalled.gateway.Willing cluster := ⟨setbacks.grows.known known, unplanned⟩
  rcases register_of_free sound valid (store ▸ free) willing accepts with ⟨record, ok, entered⟩
  refine ⟨record, ok, entered, ?_⟩
  intro later kept other otherStamp
  have soundAfter : Sound after.store := World.sound_run sound _
  have member : record ∈ (contents after.store).records := by
    rcases entered.records with ⟨records, _, listed, _⟩
    rw [LawfulStore.listAll soundAfter, Except.ok.injEq] at listed
    rw [listed]
    exact List.mem_append_right _ (List.mem_singleton_self record)
  have refused := register_of_registered (World.sound_after soundAfter later) valid
    (mem_after soundAfter member kept) entered.pair other otherStamp
  exact congrArg Prod.fst refused

/-! Alice's create is rejected, Bob draws a code that is in use, and the store fails Alice when she
comes back. By then the cluster has the name, so Bob's next attempt needs no create. -/

namespace Setbacks

def origin : World BackEnd.database.State Clusters :=
  (BackEnd.database.start (.withCodes [100])).after
    [.request (.register ⟨1, "alice", .general⟩ "team-a" 100 ⟨1, .epoch⟩)]

def rejected : World BackEnd.database.State Clusters :=
  ({ origin with gateway := origin.gateway.failNextCreate }.runFaulty []
    (register ⟨1, "alice", .general⟩ "team-x" 100 ⟨2, .epoch⟩)).2

def clashed : World BackEnd.database.State Clusters :=
  (rejected.runFaulty [] (register ⟨2, "bob", .general⟩ "team-x" 100 ⟨1, .epoch⟩)).2

def broken : World BackEnd.database.State Clusters :=
  (clashed.runFaulty [(.insert, .storeFails (.backend "disk full"))]
    (register ⟨1, "alice", .general⟩ "team-x" 100 ⟨3, .epoch⟩)).2

theorem origin_to_broken : Setbacks "team-x" 100 origin broken := by
  have rejects : ({ origin with gateway := origin.gateway.failNextCreate }.runFaulty []
      (register ⟨1, "alice", .general⟩ "team-x" 100 ⟨2, .epoch⟩)).1 =
        .error (.externalCreateFailure "cluster 100 rejected namespace team-x") := by
    decide +kernel
  have clashes : (rejected.runFaulty []
      (register ⟨2, "bob", .general⟩ "team-x" 100 ⟨1, .epoch⟩)).1 =
        .error (.store "Namespace code 1 already in use") := by
    decide +kernel
  have breaks : (clashed.runFaulty [(.insert, .storeFails (.backend "disk full"))]
      (register ⟨1, "alice", .general⟩ "team-x" 100 ⟨3, .epoch⟩)).1 =
        .error (.store "disk full") := by
    decide +kernel
  have first := none.refusing.failed _ _ _ rejects
  have second := first.failed _ _ _ clashes
  exact second.failed _ _ _ breaks

end Setbacks

theorem broken_registers_once :
    let attempt := register ⟨2, "bob", .general⟩ "team-x" 100 ⟨4, .epoch⟩
    Setbacks.broken.store = Setbacks.origin.store ∧
    ∃ record, (Setbacks.broken.run attempt).1 = .ok record ∧
      Entered ⟨2, "bob", .general⟩ "team-x" 100 Setbacks.broken (Setbacks.broken.run attempt).2
        record ∧
      (((Setbacks.broken.run attempt).2.after [.request (.deregister ⟨1, "alice", .general⟩ 2)]).run
        (register ⟨1, "alice", .general⟩ "team-x" 100 ⟨5, .epoch⟩)).1 =
          .error (alreadyRegistered "team-x" 100) := by
  intro attempt
  have general := retry_registers_once .database (.withCodes [100])
    [.request (.register ⟨1, "alice", .general⟩ "team-a" 100 ⟨1, .epoch⟩)] "team-x" 100
    (by decide +kernel) (by decide +kernel) (by decide +kernel) Setbacks.broken
    Setbacks.origin_to_broken
  have sound : Readable.Sound Setbacks.broken.store := general.1 ▸ BackEnd.sound_after _ _ _
  have accepts : Accepts Setbacks.broken.store
      (draft ⟨2, "bob", .general⟩ "team-x" 100 ⟨4, .epoch⟩) :=
    accepts_of_faultless sound (by decide +kernel)
  rcases general.2 ⟨2, "bob", .general⟩ ⟨4, .epoch⟩ (by decide +kernel) accepts with
    ⟨record, ok, entered, refused⟩
  have nothing : (Setbacks.broken.run attempt).2.deleted
      [.request (.deregister ⟨1, "alice", .general⟩ 2)] = [] := by
    decide +kernel
  refine ⟨general.1, record, ok, entered, refused _ ?_ _ _⟩
  rw [nothing]
  exact List.not_mem_nil

end Tenancy
