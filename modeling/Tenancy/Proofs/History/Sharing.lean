import Tenancy.Proofs.History.Isolation

/-! A grant is between one user and one namespace. It moves one record from one half of that user's
partition to the other, a revocation moves it back, and nobody else sees a difference. Neither has a
say in who may delete. -/

namespace Tenancy

open Readable Registry

/-! ## What a grant does to a partition -/

/-- The records that pass a test go over from one half of a partition to the other. Both halves stay
in the order of ids. -/
structure Crosses (test : Registration → Prop) (records source target newSource newTarget :
    List Registration) : Prop where
  gone : ∀ record, record ∈ newSource ↔ record ∈ source ∧ ¬test record
  come : ∀ record, record ∈ newTarget ↔ record ∈ target ∨ (record ∈ records ∧ test record)
  sourceInOrder : newSource.Pairwise fun left right => left.id < right.id
  targetInOrder : newTarget.Pairwise fun left right => left.id < right.id

theorem Crosses.of_filter {test : Registration → Prop} {records : List Registration}
    {source target newSource newTarget : Registration → Bool}
    (increasing : records.Pairwise fun left right => left.id < right.id)
    (gone : ∀ record, newSource record ↔ source record ∧ ¬test record)
    (come : ∀ record, newTarget record ↔ target record ∨ test record) :
    Crosses test records (records.filter source) (records.filter target)
      (records.filter newSource) (records.filter newTarget) := by
  refine ⟨?_, ?_, increasing.filter _, increasing.filter _⟩
  · intro record
    rw [List.mem_filter, List.mem_filter, gone, and_assoc]
  · intro record
    rw [List.mem_filter, List.mem_filter, come, and_or_left]

theorem not_isAuthorized_iff_heldBy {viewer : Principal} (general : viewer.isAdmin = false)
    (record : Registration) (grants : List Int64) :
    (!isAuthorized viewer record grants) = true ↔ ¬HeldBy viewer grants record := by
  rw [Bool.not_eq_true', ← Bool.not_eq_true, isAuthorized_iff_heldBy general]

namespace Contents

/-- Nothing differs but who holds a grant for what. -/
def Regrants (before after : Contents) : Prop :=
  after = { before with grants := after.grants }

variable {before after : Contents} {viewer : Principal} {user id : Int64}

theorem Regrants.records (regrants : before.Regrants after) : after.records = before.records := by
  rw [regrants]

theorem Regrants.active (regrants : before.Regrants after) : after.active = before.active := by
  rw [regrants]

theorem Grants.crosses (grants : before.Grants after user id) (ordered : before.Ordered)
    (general : viewer.isAdmin = false) (same : viewer.id = user) :
    Crosses (·.id = id) before.records (before.hiddenFrom viewer) (before.visibleTo viewer)
      (after.hiddenFrom viewer) (after.visibleTo viewer) := by
  have held (record : Registration) : HeldBy viewer (after.grants viewer.id) record ↔
      HeldBy viewer (before.grants viewer.id) record ∨ record.id = id := by
    rw [HeldBy, HeldBy, grants.grants]
    tauto
  rw [visibleTo, hiddenFrom, visibleTo, hiddenFrom, Regrants.records grants.rest]
  apply Crosses.of_filter ordered.increasing
  · intro record
    rw [not_isAuthorized_iff_heldBy general, not_isAuthorized_iff_heldBy general, held, not_or]
  · intro record
    rw [isAuthorized_iff_heldBy general, isAuthorized_iff_heldBy general, held]

/-- An owner holds the record without a grant. -/
theorem Revokes.crosses (revokes : before.Revokes after user id) (ordered : before.Ordered)
    (general : viewer.isAdmin = false) (same : viewer.id = user) :
    Crosses (fun record => record.id = id ∧ record.owner ≠ user) before.records
      (before.visibleTo viewer) (before.hiddenFrom viewer)
      (after.visibleTo viewer) (after.hiddenFrom viewer) := by
  have held (record : Registration) : HeldBy viewer (after.grants viewer.id) record ↔
      HeldBy viewer (before.grants viewer.id) record ∧
        ¬(record.id = id ∧ record.owner ≠ user) := by
    rw [HeldBy, HeldBy, revokes.grants, ← same]
    tauto
  rw [visibleTo, hiddenFrom, visibleTo, hiddenFrom, Regrants.records revokes.rest]
  apply Crosses.of_filter ordered.increasing
  · intro record
    rw [isAuthorized_iff_heldBy general, isAuthorized_iff_heldBy general, held]
  · intro record
    rw [not_isAuthorized_iff_heldBy general, not_isAuthorized_iff_heldBy general, held]
    tauto

end Contents

/-! ## What a grant leaves alone -/

/-- Every listing of the viewer is the same as before. -/
structure Unaffected [Store σ] [Gateway γ] (viewer : Principal) (before after : World σ γ) :
    Prop where
  partition : (after.run (partition viewer)).1 = (before.run (partition viewer)).1
  available : (after.run (available viewer)).1 = (before.run (available viewer)).1
  pagedList : ∀ limit search number size,
    (after.run (pagedList limit viewer search number size)).1 =
      (before.run (pagedList limit viewer search number size)).1

theorem listAll_of_regrants [Store σ] [Readable σ] [LawfulStore σ] {before after : σ}
    (soundBefore : Sound before) (soundAfter : Sound after)
    (regrants : (contents before).Regrants (contents after)) :
    Store.listAll after = Store.listAll before := by
  rw [LawfulStore.listAll soundAfter, LawfulStore.listAll soundBefore, regrants.records]

section

variable [Store σ] [Readable σ] [LawfulStore σ] [Gateway γ] {before after : World σ γ}
  {viewer : Principal}

/-- A listing asks for the records and for the grants of the viewer, an admin's not even these. -/
theorem unaffected_of_regrants (soundBefore : Sound before.store) (soundAfter : Sound after.store)
    (regrants : (contents before.store).Regrants (contents after.store))
    (grants : viewer.isAdmin = true ∨ ∀ id, id ∈ (contents after.store).grants viewer.id ↔
      id ∈ (contents before.store).grants viewer.id) : Unaffected viewer before after := by
  have authorized (record : Registration) :
      isAuthorized viewer record ((contents after.store).grants viewer.id) =
        isAuthorized viewer record ((contents before.store).grants viewer.id) := by
    rw [Bool.eq_iff_iff, isAuthorized_iff, isAuthorized_iff]
    rcases grants with admin | same
    · simp [admin]
    · rw [same]
  have visible : (contents after.store).visibleTo viewer =
      (contents before.store).visibleTo viewer := by
    simp only [Contents.visibleTo, regrants.records, authorized]
  have hidden : (contents after.store).hiddenFrom viewer =
      (contents before.store).hiddenFrom viewer := by
    simp only [Contents.hiddenFrom, regrants.records, authorized]
  constructor
  · rw [run_partition soundAfter, run_partition soundBefore, visible, hidden]
  · rw [run_available soundAfter, run_available soundBefore, visible]
  · intro limit search number size
    rw [run_pagedList soundAfter, run_pagedList soundBefore, visible]

/-- Who may delete a record, and whether it can be deleted, does not depend on grants. -/
theorem deregister_of_regrants (soundBefore : Sound before.store) (soundAfter : Sound after.store)
    (regrants : (contents before.store).Regrants (contents after.store))
    (caller : Principal) (target : Int64) :
    (after.run (deregister caller target)).1 = (before.run (deregister caller target)).1 := by
  rw [run_deregister soundAfter, run_deregister soundBefore, regrants.records, regrants.active]
  cases (contents before.store).records.find? (·.id == target) with
  | none => rfl
  | some record =>
      by_cases manages : canManage caller record = true
      · simp only [if_pos manages]
        cases (contents before.store).active target <;> rfl
      · simp only [if_neg manages]

end

section

variable [Store σ] [Readable σ] [LawfulStore σ] {world : World σ Clusters}

theorem grant_cases (sound : Sound world.store) (user id : Int64) :
    ∃ next, ((Operation.grant user id).perform world).2 = { world with store := next } ∧
      Sound next ∧ (contents world.store).Grants (contents next) user id := by
  have outcome := LawfulStore.grant sound user id
  simp only [Operation.perform]
  generalize Store.grant world.store user id = result at outcome
  cases outcome with
  | mk next nextSound grants => exact ⟨next, rfl, nextSound, grants⟩

theorem revoke_cases (sound : Sound world.store) (user id : Int64) :
    ∃ next, ((Operation.revoke user id).perform world).2 = { world with store := next } ∧
      Sound next ∧ (contents world.store).Revokes (contents next) user id := by
  have outcome := LawfulStore.revoke sound user id
  simp only [Operation.perform]
  generalize Store.revoke world.store user id = result at outcome
  cases outcome with
  | mk next nextSound revokes => exact ⟨next, rfl, nextSound, revokes⟩

end

theorem BackEnd.grant_grant (backEnd : BackEnd) {store : backEnd.State} (sound : Sound store)
    (user id : Int64) :
    Store.grant (Store.grant store user id).2 user id = Store.grant store user id := by
  cases backEnd with
  | memory => exact congrArg (Except.ok (), ·) (Memory.grant_grant store user id)
  | database =>
      rcases sound with ⟨tables, rfl, _⟩
      exact Database.grant_grant tables user id

/-! ## Grants and revocations in a history -/

/-- After every history, a grant is seen by nobody but the general users with that id, and for them
the record with the granted id joins the authorized ones. A revocation takes it away again from
those who do not own it. To grant once more changes nothing, and no deletion comes out otherwise
for a grant or a revocation. -/
theorem grants_are_local (backEnd : BackEnd) (clusters : Clusters) (history : List Operation)
    (user id : Int64) :
    let world := (backEnd.start clusters).after history
    let granted := ((Operation.grant user id).perform world).2
    let revoked := ((Operation.revoke user id).perform world).2
    (∀ viewer : Principal, viewer.id ≠ user ∨ viewer.isAdmin = true →
      Unaffected viewer world granted ∧ Unaffected viewer world revoked) ∧
    (∀ viewer : Principal, viewer.id = user → viewer.isAdmin = false →
      ∃ records before shared unshared, Store.listAll world.store = .ok records ∧
        (world.run (partition viewer)).1 = .ok before ∧
        (granted.run (partition viewer)).1 = .ok shared ∧
        (revoked.run (partition viewer)).1 = .ok unshared ∧
        Crosses (·.id = id) records before.unauthorized before.authorized
          shared.unauthorized shared.authorized ∧
        Crosses (fun record => record.id = id ∧ record.owner ≠ user) records
          before.authorized before.unauthorized unshared.authorized unshared.unauthorized) ∧
    ((Operation.grant user id).perform granted).2 = granted ∧
    Store.listAll granted.store = Store.listAll world.store ∧
    Store.listAll revoked.store = Store.listAll world.store ∧
    ∀ caller target,
      (granted.run (deregister caller target)).1 = (world.run (deregister caller target)).1 ∧
      (revoked.run (deregister caller target)).1 = (world.run (deregister caller target)).1 := by
  intro world granted revoked
  have sound : Sound world.store := backEnd.sound_after clusters history
  have ordered := LawfulStore.ordered sound
  rcases grant_cases sound user id with ⟨sharing, grantedEq, sharingSound, grants⟩
  rcases revoke_cases sound user id with ⟨unsharing, revokedEq, unsharingSound, revokes⟩
  have again : ((Operation.grant user id).perform granted).2 = granted :=
    congrArg (fun result => World.mk (γ := Clusters) result.2 world.gateway)
      (backEnd.grant_grant sound user id)
  have shares : (contents world.store).Regrants (contents sharing) := grants.rest
  have unshares : (contents world.store).Regrants (contents unsharing) := revokes.rest
  refine ⟨?_, ?_, again, ?_⟩
  all_goals simp only [granted, revoked, grantedEq, revokedEq]
  · intro viewer other
    constructor
    · apply unaffected_of_regrants sound sharingSound shares
      refine other.symm.imp_right fun different granted => ?_
      rw [grants.grants]
      tauto
    · apply unaffected_of_regrants sound unsharingSound unshares
      refine other.symm.imp_right fun different granted => ?_
      rw [revokes.grants]
      tauto
  · intro viewer same general
    refine ⟨_, _, _, _, LawfulStore.listAll sound, congrArg Prod.fst (run_partition sound viewer),
      congrArg Prod.fst (run_partition sharingSound viewer),
      congrArg Prod.fst (run_partition unsharingSound viewer), ?_, ?_⟩
    · exact grants.crosses ordered general same
    · exact revokes.crosses ordered general same
  · refine ⟨listAll_of_regrants sound sharingSound shares,
      listAll_of_regrants sound unsharingSound unshares, ?_⟩
    intro caller target
    exact ⟨deregister_of_regrants sound sharingSound shares caller target,
      deregister_of_regrants sound unsharingSound unshares caller target⟩

/-- Bob is given the second namespace of Alice. -/
def Sharing.registered : List Operation := [
  .request (.register ⟨1, "alice", .general⟩ "alpha" 100 ⟨1, .epoch⟩),
  .request (.register ⟨2, "bob", .general⟩ "beta" 100 ⟨2, .epoch⟩),
  .request (.register ⟨1, "alice", .general⟩ "gamma" 100 ⟨3, .epoch⟩)]

theorem grant_to_bob_is_local :
    let world := (BackEnd.database.start (.withCodes [100])).after Sharing.registered
    let granted := ((Operation.grant 2 3).perform world).2
    Unaffected ⟨1, "alice", .general⟩ world granted ∧
    ∃ records before shared, Store.listAll world.store = .ok records ∧
      (world.run (partition ⟨2, "bob", .general⟩)).1 = .ok before ∧
      (granted.run (partition ⟨2, "bob", .general⟩)).1 = .ok shared ∧
      Crosses (·.id = 3) records before.unauthorized before.authorized
        shared.unauthorized shared.authorized := by
  intro world granted
  have isLocal := grants_are_local .database (.withCodes [100]) Sharing.registered 2 3
  rcases isLocal.2.1 ⟨2, "bob", .general⟩ (by decide) (by decide) with
    ⟨records, before, shared, _, listed, ranBefore, ranShared, _, crosses, _⟩
  exact ⟨(isLocal.1 ⟨1, "alice", .general⟩ (by decide)).1, records, before, shared, listed,
    ranBefore, ranShared, crosses⟩

end Tenancy
