import Tenancy.Proofs.History.Pages

/-! One de-registration from end to end. What it comes to is decided by the record, the caller and
the workloads, in this order. A refusal changes nothing. A success takes out the one record,
everywhere and for good: no later operation brings its id back. -/

namespace Tenancy

open Readable Registry

/-! ## The answer -/

/-- What is answered, cause by cause. -/
structure DecidesInOrder [Store σ] (store : σ) (records : List Registration) (caller : Principal)
    (id : Int64) (outcome : Except RegistryError Unit) : Prop where
  notFound : ∀ text, outcome = .error (.notFound text) ↔
    (∀ record ∈ records, record.id ≠ id) ∧
      text = "Namespace " ++ Text.decimal id.toInt ++ " not found"
  /-- Neither grants nor workloads count. -/
  forbidden : ∀ text, outcome = .error (.forbidden text) ↔
    ∃ record ∈ records, record.id = id ∧ ¬(caller.isAdmin = true ∨ record.owner = caller.id) ∧
      text = "User " ++ caller.username ++ " may not delete namespace " ++ record.name
  inUse : ∀ text, outcome = .error (.inUse text) ↔
    ∃ record ∈ records, record.id = id ∧ (caller.isAdmin = true ∨ record.owner = caller.id) ∧
      Store.hasActive store id = .ok true ∧
      text = "Namespace '" ++ record.name ++ "' on cluster "
        ++ Text.decimal record.cluster.toInt ++ " still has active workloads"
  ok : outcome = .ok () ↔
    ∃ record ∈ records, record.id = id ∧ (caller.isAdmin = true ∨ record.owner = caller.id) ∧
      Store.hasActive store id = .ok false

theorem canManage_iff (caller : Principal) (record : Registration) :
    canManage caller record = true ↔ caller.isAdmin = true ∨ record.owner = caller.id := by
  rw [canManage, Bool.or_eq_true, beq_iff_eq]

section

variable [Store σ] [Readable σ] [LawfulStore σ] {world : World σ Clusters}

theorem decides_deregister (sound : Sound world.store) (caller : Principal) (id : Int64) :
    DecidesInOrder world.store (contents world.store).records caller id
      (world.run (deregister caller id)).1 := by
  have only := (LawfulStore.ordered sound).id_injective
  have active := LawfulStore.hasActive sound id
  rw [run_deregister sound]
  cases found : (contents world.store).records.find? (·.id == id) with
  | none =>
      have absent (record : Registration) (member : record ∈ (contents world.store).records) :
          record.id ≠ id := by
        simpa using List.find?_eq_none.mp found record member
      constructor <;> grind [StoreError.toRegistry]
  | some record =>
      rcases ((LawfulStore.ordered sound).find?_id id record).mp found with ⟨member, rfl⟩
      have manages := canManage_iff caller record
      simp only
      constructor <;> grind [mayNotDelete, stillInUse]

end

/-! ## The listings without a record -/

/-- What is left of a partition when a record goes. -/
def Registry.Partition.without (split : Partition) (id : Int64) : Partition where
  authorized := split.authorized.filter (·.id != id)
  unauthorized := split.unauthorized.filter (·.id != id)

namespace Contents

variable {before after : Contents} {id : Int64}

theorem Removes.records (removes : before.Removes after id) :
    after.records = before.records.filter (·.id != id) := by
  rw [removes.rest]

theorem Removes.isAuthorized (removes : before.Removes after id) (user : Principal)
    {record : Registration} (different : record.id ≠ id) :
    isAuthorized user record (after.grants user.id) =
      isAuthorized user record (before.grants user.id) := by
  rw [Bool.eq_iff_iff, isAuthorized_iff, isAuthorized_iff, removes.mem_grants different user.id]

theorem Removes.filter_records (removes : before.Removes after id)
    {test kept : Registration → Bool}
    (same : ∀ record : Registration, record.id ≠ id → kept record = test record) :
    after.records.filter kept = (before.records.filter test).filter (·.id != id) := by
  rw [removes.records, List.filter_comm _ test]
  apply List.filter_congr
  intro record member
  exact same record (bne_iff_ne.mp (List.mem_filter.mp member).2)

theorem Removes.visibleTo (removes : before.Removes after id) (user : Principal) :
    after.visibleTo user = (before.visibleTo user).filter (·.id != id) :=
  removes.filter_records fun _ different => removes.isAuthorized user different

theorem Removes.hiddenFrom (removes : before.Removes after id) (user : Principal) :
    after.hiddenFrom user = (before.hiddenFrom user).filter (·.id != id) :=
  removes.filter_records fun _ different => congrArg not (removes.isAuthorized user different)

/-! ## Ids that are gone -/

/-- The id was given, and no record has it any longer. -/
structure Gone (contents : Contents) (id : Int64) : Prop where
  given : id ≤ contents.lastId
  absent : ∀ record ∈ contents.records, record.id ≠ id

theorem Removes.gone (removes : before.Removes after id) (ordered : before.Ordered) :
    after.Gone id := by
  rcases removes.present with ⟨record, member, rfl⟩
  constructor
  · rw [removes.rest]
    exact (ordered.given record member).2
  · intro other member
    rw [removes.records] at member
    exact bne_iff_ne.mp (List.mem_filter.mp member).2

/-- A new record gets an id above all that were given. -/
theorem Gone.step (gone : before.Gone id) {operation : Operation} {answer : Answer}
    (change : Change operation answer before after) : after.Gone id := by
  have given : id ≤ after.lastId := by
    rcases change.lastId_cases with ⟨_, same⟩ | ⟨draft, record, _, enters⟩
    · exact same ▸ gone.given
    · have above := lt_of_nextId? enters.next
      have given := gone.given
      rw [enters.rest]
      change id ≤ record.id
      grind
  have entering {draft : Draft} {record : Registration} (enters : before.Enters after draft record)
      (other : Registration) (member : other ∈ after.records) : other.id ≠ id := by
    have above := lt_of_nextId? enters.next
    have given := gone.given
    rw [enters.rest] at member
    rcases List.mem_append.mp member with earlier | last
    · exact gone.absent other earlier
    · rw [List.mem_singleton.mp last]
      grind
  refine ⟨given, ?_⟩
  rcases change.records_cases with
    same | ⟨_, _, _, _, _, _, _, enters⟩ | ⟨_, _, _, enters⟩ | ⟨deleted, _, fewer⟩
  · exact same ▸ gone.absent
  · exact entering enters
  · exact entering enters
  · intro other member
    rw [fewer] at member
    exact gone.absent other (List.mem_filter.mp member).1

end Contents

section

variable [Store σ] [Readable σ] [LawfulStore σ] {world : World σ Clusters}

theorem Contents.Gone.after {id : Int64} (sound : Sound world.store)
    (gone : (contents world.store).Gone id) (history : List Operation) :
    (contents (world.after history).store).Gone id := by
  induction history generalizing world with
  | nil => exact gone
  | cons operation rest induction =>
      have changed := change_perform sound operation
      exact induction changed.1 (gone.step changed.2)

end

/-! ## What a success leaves -/

/-- The record with the id is gone from everywhere, and nothing else is. -/
structure LeavesWithout [Store σ] (before : World σ Clusters) (records : List Registration)
    (id : Int64) (after : World σ Clusters) : Prop where
  listAll : Store.listAll after.store = .ok (records.filter (·.id != id))
  gateway : after.gateway = before.gateway
  grants : ∀ user, ∃ held kept, Store.grantsOf before.store user = .ok held ∧
    Store.grantsOf after.store user = .ok kept ∧ ∀ other, other ≠ id → (other ∈ kept ↔ other ∈ held)
  workloads : ∀ other, other ≠ id →
    Store.hasActive after.store other = Store.hasActive before.store other
  users : ∀ user, Store.findUser after.store user = Store.findUser before.store user
  partition : ∀ user, ∃ split, (before.run (partition user)).1 = .ok split ∧
    (after.run (partition user)).1 = .ok (split.without id)
  available : ∀ user, ∃ listed, (before.run (available user)).1 = .ok listed ∧
    (after.run (available user)).1 = .ok (listed.filter (·.id != id))
  /-- The pages are cut from the listing they were cut from, without the record. -/
  pages : ∀ limit user search, ∃ held kept listing,
    Paginates before limit user search records held listing ∧
    Paginates after limit user search (records.filter (·.id != id)) kept
      (listing.filter (·.id != id))
  free : ∀ record ∈ records, record.id = id → Name.check record.name = .ok () →
    (after.run (verifyUnique record.name record.cluster)).1 = .ok true
  forGood : ∀ later caller, ((after.after later).run (deregister caller id)).1 =
    .error (.notFound ("Namespace " ++ Text.decimal id.toInt ++ " not found"))

section

variable [Store σ] [Readable σ] [LawfulStore σ] {before after : World σ Clusters} {id : Int64}

theorem leavesWithout_of_removes (soundBefore : Sound before.store) (soundAfter : Sound after.store)
    (gateway : after.gateway = before.gateway)
    (removes : (contents before.store).Removes (contents after.store) id) :
    LeavesWithout before (contents before.store).records id after := by
  have ordered := LawfulStore.ordered soundBefore
  have visibleOnce (user : Principal) :
      (((contents before.store).visibleTo user).map (·.id)).Nodup :=
    ordered.idsOnce.sublist (List.filter_sublist.map _)
  constructor
  · rw [LawfulStore.listAll soundAfter, removes.records]
  · exact gateway
  · intro user
    exact ⟨_, _, LawfulStore.grantsOf soundBefore user, LawfulStore.grantsOf soundAfter user,
      fun other different => removes.mem_grants different user⟩
  · intro other different
    rw [LawfulStore.hasActive soundAfter, LawfulStore.hasActive soundBefore,
      removes.active_other other different]
  · intro user
    rw [LawfulStore.findUser soundAfter, LawfulStore.findUser soundBefore, removes.rest]
  · intro user
    refine ⟨_, congrArg Prod.fst (run_partition soundBefore user), ?_⟩
    rw [run_partition soundAfter, removes.visibleTo, removes.hiddenFrom]
    rfl
  · intro user
    refine ⟨_, congrArg Prod.fst (run_available_undropped soundBefore user), ?_⟩
    rw [run_available_undropped soundAfter, removes.visibleTo,
      oldestFirst_filter (visibleOnce user)]
  · intro limit user search
    have listing : newestFirst (matching search ((contents after.store).visibleTo user)) =
        (newestFirst (matching search ((contents before.store).visibleTo user))).filter
          (·.id != id) := by
      rcases matching_eq_filter search with ⟨found, filters⟩
      have once := (visibleOnce user).sublist (List.filter_sublist (p := found) |>.map (·.id))
      rw [removes.visibleTo, filters, filters, List.filter_comm, newestFirst_filter once]
    have paginates := paginates_of_sound soundAfter limit user search
    rw [removes.records, listing] at paginates
    exact ⟨_, _, _, paginates_of_sound soundBefore limit user search, paginates⟩
  · rintro record member rfl valid
    exact verifyUnique_of_free soundAfter valid (removes.not_registered ordered member)
  · intro later caller
    have gone := (removes.gone ordered).after soundAfter later
    have decides := decides_deregister (World.sound_after soundAfter later) caller id
    exact (decides.notFound _).mpr ⟨gone.absent, rfl⟩

end

/-- A de-registration is refused and changes nothing, or it takes out one record for good. -/
theorem deregistration_removes_or_refuses [Store σ] [Readable σ] [LawfulStore σ]
    {world : World σ Clusters} (sound : Sound world.store) (caller : Principal) (id : Int64) :
    ∃ records, Store.listAll world.store = .ok records ∧
      let ran := world.run (deregister caller id)
      DecidesInOrder world.store records caller id ran.1 ∧
      (∀ error, ran.1 = .error error → ran.2 = world) ∧
      (ran.1 = .ok () → LeavesWithout world records id ran.2) := by
  refine ⟨_, LawfulStore.listAll sound, decides_deregister sound caller id, ?_⟩
  rcases deregister_cases sound caller id with ⟨error, ran⟩ | ⟨next, ran, nextSound, removes⟩
  · rw [ran]
    exact ⟨fun _ _ => rfl, nofun⟩
  · rw [ran]
    exact ⟨nofun, fun _ => leavesWithout_of_removes sound nextSound rfl removes⟩

/-- Bob holds a grant for alice's alpha. Her beta has a job running. -/
def Deregistering.shared : List Operation := [
  .insert ⟨1, "alpha", 100, 1, .epoch⟩,
  .insert ⟨2, "beta", 100, 1, .epoch⟩,
  .grant 2 1,
  .setWorkload 2 "job" true]

theorem alpha_goes_for_good :
    let alice : Principal := ⟨1, "alice", .general⟩
    let bob : Principal := ⟨2, "bob", .general⟩
    let world := (BackEnd.database.start (.withCodes [100])).after Deregistering.shared
    let without := (world.run (deregister alice 1)).2
    Sound world.store ∧
      (world.run (deregister bob 1)).1 =
        .error (.forbidden "User bob may not delete namespace alpha") ∧
      (world.run (deregister alice 2)).1 =
        .error (.inUse "Namespace 'beta' on cluster 100 still has active workloads") ∧
      (world.run (deregister alice 1)).1 = .ok () ∧
      without.gateway = world.gateway ∧
      ∀ later caller, ((without.after later).run (deregister caller 1)).1 =
        .error (.notFound "Namespace 1 not found") := by
  intro alice bob world without
  have sound : Sound world.store := BackEnd.sound_after .database _ _
  have succeeds : (world.run (deregister alice 1)).1 = .ok () := by decide +kernel
  rcases deregistration_removes_or_refuses sound alice 1 with ⟨records, _, _, _, leaves⟩
  have left := leaves succeeds
  refine ⟨sound, by decide +kernel, by decide +kernel, succeeds, left.gateway, ?_⟩
  exact left.forGood

end Tenancy
