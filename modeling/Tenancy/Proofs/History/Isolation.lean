import Tenancy.Proofs.History.Change
import Tenancy.Proofs.Registry.Order

/-! What a general user is listed depends on that user's own records and grants. Registries that
agree on these cannot be told apart by a listing, whatever else they hold. -/

namespace Tenancy

open Readable Registry

namespace Registry

/-- The user owns the record or holds a grant for it. -/
def HeldBy (user : Principal) (grants : List Int64) (record : Registration) : Prop :=
  record.owner = user.id ∨ record.id ∈ grants

instance (user : Principal) (grants : List Int64) (record : Registration) :
    Decidable (HeldBy user grants record) :=
  inferInstanceAs (Decidable (_ ∨ _))

/-- The store lists these records, each under an id of its own, and these grants of the user. -/
structure Lists [Store σ] (store : σ) (user : Principal) (records : List Registration)
    (grants : List Int64) : Prop where
  listAll : Store.listAll store = .ok records
  idsOnce : (records.map (·.id)).Nodup
  grantsOf : Store.grantsOf store user.id = .ok grants

theorem lists_of_sound [Store σ] [Readable σ] [LawfulStore σ] {store : σ} (sound : Sound store)
    (user : Principal) :
    Lists store user (contents store).records ((contents store).grants user.id) :=
  ⟨LawfulStore.listAll sound, (LawfulStore.ordered sound).idsOnce,
    LawfulStore.grantsOf sound user.id⟩

/-! ## The records a user holds -/

/-- The user holds the same records on both sides. -/
def HoldsSame (user : Principal) (left : List Registration) (leftGrants : List Int64)
    (right : List Registration) (rightGrants : List Int64) : Prop :=
  ∀ record, (record ∈ left ∧ HeldBy user leftGrants record) ↔
    (record ∈ right ∧ HeldBy user rightGrants record)

variable {user : Principal} {left right : List Registration} {leftGrants rightGrants : List Int64}

/-- A general user has no other reason to be authorized. -/
theorem isAuthorized_iff_heldBy (general : user.isAdmin = false) (record : Registration)
    (grants : List Int64) : isAuthorized user record grants = true ↔ HeldBy user grants record := by
  rw [isAuthorized_iff, general, HeldBy]
  simp

theorem idsOnce_filter (once : (left.map (·.id)).Nodup) (test : Registration → Bool) :
    ((left.filter test).map (·.id)).Nodup :=
  once.sublist (List.filter_sublist.map _)

/-- What is left on either side, once the records of others are gone, is the same set. -/
theorem HoldsSame.perm (same : HoldsSame user left leftGrants right rightGrants)
    (general : user.isAdmin = false) (leftOnce : (left.map (·.id)).Nodup)
    (rightOnce : (right.map (·.id)).Nodup) :
    (left.filter (isAuthorized user · leftGrants)).Perm
      (right.filter (isAuthorized user · rightGrants)) := by
  apply (List.perm_ext_iff_of_nodup (leftOnce.of_map.filter _) (rightOnce.of_map.filter _)).mpr
  intro record
  rw [List.mem_filter, List.mem_filter, isAuthorized_iff_heldBy general,
    isAuthorized_iff_heldBy general]
  exact same record

/-! ## Two registries -/

/-- The user gets the same out of every listing, and is refused every question about another user,
known or not. -/
structure SameView [Store σ] [Store τ] [Gateway γ] [Gateway δ] (user : Principal)
    (left : World σ γ) (right : World τ δ) : Prop where
  pagedList : ∀ limit search number size,
    (left.run (pagedList limit user search number size)).1 =
      (right.run (pagedList limit user search number size)).1
  available : ∃ listed, (left.run (available user)).1 = .ok listed ∧
    (right.run (available user)).1 = .ok listed
  authorized : ∃ leftSplit rightSplit, (left.run (partition user)).1 = .ok leftSplit ∧
    (right.run (partition user)).1 = .ok rightSplit ∧ leftSplit.authorized = rightSplit.authorized
  authorizedFor : ∀ target, (left.run (authorizedFor user target)).1 = .error (mayNotAsk user) ∧
    (right.run (authorizedFor user target)).1 = .error (mayNotAsk user)
  unauthorizedFor : ∀ target,
    (left.run (unauthorizedFor user target)).1 = .error (mayNotAsk user) ∧
    (right.run (unauthorizedFor user target)).1 = .error (mayNotAsk user)

section

variable [Store σ] [Store τ] [Gateway γ] [Gateway δ] {left : World σ γ} {right : World τ δ}
  {leftRecords rightRecords : List Registration} (general : user.isAdmin = false)
  (leftLists : Lists left.store user leftRecords leftGrants)
  (rightLists : Lists right.store user rightRecords rightGrants)
  (same : HoldsSame user leftRecords leftGrants rightRecords rightGrants)

include general leftLists rightLists same

/-- What starts from the records a user may see tells no more than these records, unless it tells in
which order the store had them. -/
theorem run_withVisible_eq {next : List Registration → Attempt α}
    (orderless : ∀ first second, (first.map (·.id)).Nodup → first.Perm second →
      (left.run (next first)).1 = (right.run (next second)).1) :
    (left.run (withVisible user next)).1 = (right.run (withVisible user next)).1 := by
  rw [run_withVisible_of leftLists.listAll fun _ => leftLists.grantsOf,
    run_withVisible_of rightLists.listAll fun _ => rightLists.grantsOf]
  apply orderless
  · exact idsOnce_filter leftLists.idsOnce _
  · exact same.perm general leftLists.idsOnce rightLists.idsOnce

theorem pagedList_eq (limit : UInt32) (search : Option String) (number size : UInt32) :
    (left.run (pagedList limit user search number size)).1 =
      (right.run (pagedList limit user search number size)).1 := by
  unfold pagedList
  cases checkPage number size limit with
  | error fault => rfl
  | ok _ =>
      apply run_withVisible_eq general leftLists rightLists same
      intro first second once perm
      rcases matching_eq_filter search with ⟨found, filters⟩
      rw [filters, filters,
        newestFirst_eq_of_perm (idsOnce_filter once found) (perm.filter found)]
      rfl

theorem available_eq : ∃ listed, (left.run (available user)).1 = .ok listed ∧
    (right.run (available user)).1 = .ok listed := by
  have listed : left.run (available user) =
      (.ok (firstPerPair [] (oldestFirst (leftRecords.filter (isAuthorized user · leftGrants)))),
        left) :=
    run_available_of leftLists.listAll fun _ => leftLists.grantsOf
  have equal : (left.run (available user)).1 = (right.run (available user)).1 := by
    apply run_withVisible_eq general leftLists rightLists same
    intro first second once perm
    rw [oldestFirst_eq_of_perm once perm]
    rfl
  exact ⟨_, congrArg Prod.fst listed, equal.symm.trans (congrArg Prod.fst listed)⟩

theorem authorized_eq : ∃ leftSplit rightSplit, (left.run (partition user)).1 = .ok leftSplit ∧
    (right.run (partition user)).1 = .ok rightSplit ∧
    leftSplit.authorized = rightSplit.authorized := by
  refine ⟨_, _, congrArg Prod.fst (run_partition_of leftLists.listAll leftLists.grantsOf),
    congrArg Prod.fst (run_partition_of rightLists.listAll rightLists.grantsOf), ?_⟩
  have perm := same.perm general leftLists.idsOnce rightLists.idsOnce
  have once := idsOnce_filter leftLists.idsOnce (isAuthorized user · leftGrants)
  simp only [Partition.of]
  rw [← inIdOrder_filter leftLists.idsOnce, ← inIdOrder_filter rightLists.idsOnce,
    inIdOrder_eq_of_perm once perm]

end

end Registry

/-- A general user who holds the same records in two registries has the same view of both, whatever
else there is in either. -/
theorem foreign_records_do_not_show [Store σ] [Store τ] [Gateway γ] [Gateway δ]
    {left : World σ γ} {right : World τ δ} {user : Principal}
    {leftRecords rightRecords : List Registration} {leftGrants rightGrants : List Int64}
    (general : user.isAdmin = false)
    (leftLists : Lists left.store user leftRecords leftGrants)
    (rightLists : Lists right.store user rightRecords rightGrants)
    (same : HoldsSame user leftRecords leftGrants rightRecords rightGrants) :
    SameView user left right := by
  have unprivileged : ¬user.isAdmin = true := Bool.eq_false_iff.mp general
  constructor
  · exact pagedList_eq general leftLists rightLists same
  · exact available_eq general leftLists rightLists same
  · exact authorized_eq general leftLists rightLists same
  · intro target
    exact ⟨congrArg Prod.fst (run_withSubject_of_general unprivileged target _),
      congrArg Prod.fst (run_withSubject_of_general unprivileged target _)⟩
  · intro target
    exact ⟨congrArg Prod.fst (run_withSubject_of_general unprivileged target _),
      congrArg Prod.fst (run_withSubject_of_general unprivileged target _)⟩

/-! Alice owns one record and holds a grant for another, in a registry that is kept in memory and in
a database. The rest is different. -/

def Isolation.crowded : List Operation := [
  .request (.register ⟨1, "alice", .general⟩ "alpha" 100 ⟨1, .epoch⟩),
  .request (.register ⟨2, "bob", .general⟩ "shared" 100 ⟨2, .epoch⟩),
  .grant 1 2,
  .request (.register ⟨2, "bob", .general⟩ "secret" 100 ⟨3, .epoch⟩),
  .grant 3 3]

def Isolation.sparse : List Operation := [
  .request (.register ⟨1, "alice", .general⟩ "alpha" 100 ⟨1, .epoch⟩),
  .request (.register ⟨2, "bob", .general⟩ "shared" 100 ⟨2, .epoch⟩),
  .addUser ⟨2, "bob", .general⟩,
  .insert ⟨9, "alpha", 200, 4, .epoch⟩,
  .grant 1 2,
  .grant 2 1]

theorem foreign_records_do_not_show_to_alice :
    let left := (BackEnd.memory.start (.withCodes [100])).after Isolation.crowded
    let right := (BackEnd.database.start (.withCodes [100])).after Isolation.sparse
    SameView ⟨1, "alice", .general⟩ left right := by
  intro left right
  have leftSound : Sound left.store := BackEnd.sound_after .memory _ _
  have rightSound : Sound right.store := BackEnd.sound_after .database _ _
  have held : (contents left.store).records.filter
        (HeldBy ⟨1, "alice", .general⟩ ((contents left.store).grants 1)) =
      (contents right.store).records.filter
        (HeldBy ⟨1, "alice", .general⟩ ((contents right.store).grants 1)) := by
    decide +kernel
  apply foreign_records_do_not_show (by decide) (lists_of_sound leftSound _)
    (lists_of_sound rightSound _)
  intro record
  have member := congrArg (record ∈ ·) held
  simpa only [List.mem_filter, decide_eq_true_eq, eq_iff_iff] using member

end Tenancy
