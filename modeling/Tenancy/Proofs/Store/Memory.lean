import Tenancy.Proofs.Store.Lawful

/-! The store in lists is lawful. Deleting a record leaves the grants and marks of its id behind. -/

namespace Tenancy

namespace Memory

open Readable

theorem mem_grantsOf {memory : Memory} {user id : Int64} :
    id ∈ memory.grantsOf user ↔ (user, id) ∈ memory.grants := by
  unfold grantsOf
  rw [List.mem_filterMap]
  constructor
  · intro found
    rcases found with ⟨⟨holder, granted⟩, member, same⟩
    by_cases equal : holder = user
    · rw [if_pos equal, Option.some.injEq] at same
      exact equal ▸ same ▸ member
    · rw [if_neg equal] at same
      cases same
  · intro member
    exact ⟨(user, id), member, by simp⟩

theorem grant_grant (memory : Memory) (user id : Int64) :
    (memory.grant user id).grant user id = memory.grant user id := by
  simp only [grant]
  rw [insertNew_of_mem (mem_insertNew.mpr (.inr rfl))]

theorem findUser_addUser_same (memory : Memory) (user : Principal) :
    (memory.addUser user).findUser user.id = some user := by
  have gone : (memory.users.filter (·.id != user.id)).find? (·.id == user.id) = none := by
    simp
  simp [findUser, addUser, List.find?_append, gone]

theorem findUser_addUser_other (memory : Memory) (user : Principal) {id : Int64}
    (different : id ≠ user.id) : (memory.addUser user).findUser id = memory.findUser id := by
  have kept : (memory.users.filter (·.id != user.id)).find? (·.id == id) =
      memory.users.find? (·.id == id) := by
    rw [List.find?_filter]
    congr 1
    funext other
    by_cases equal : other.id = id <;> simp [equal, different]
  have notLast : [user].find? (·.id == id) = none := by
    simp [different.symm]
  rw [findUser, addUser, List.find?_append, kept, notLast, Option.or_none, findUser]

@[simp] theorem hasActive_markActive_same (memory : Memory) (id : Int64) :
    (memory.markActive id).hasActive id = true := by
  simp [hasActive, markActive, mem_insertNew]

theorem hasActive_markActive_other (memory : Memory) {id other : Int64} (different : other ≠ id) :
    (memory.markActive id).hasActive other = memory.hasActive other := by
  simp [hasActive, markActive, mem_insertNew, different]

@[simp] theorem hasActive_clearActive_same (memory : Memory) (id : Int64) :
    (memory.clearActive id).hasActive id = false := by
  simp [hasActive, clearActive, mem_remove]

theorem hasActive_clearActive_other (memory : Memory) {id other : Int64} (different : other ≠ id) :
    (memory.clearActive id).hasActive other = memory.hasActive other := by
  simp [hasActive, clearActive, mem_remove, different]

/-- Workloads are not told apart. -/
def contents (memory : Memory) : Contents where
  records := memory.rows
  lastId := memory.lastId
  users := memory.findUser
  grants := memory.grantsOf
  active := memory.hasActive
  workloads _ _ := False

instance : Readable Memory where
  contents := contents
  Sound memory := memory.contents.Ordered

theorem contents_empty : contents empty = Contents.empty := rfl

theorem sound_empty : Sound empty :=
  Contents.ordered_empty

theorem insertOutcome {memory : Memory} (sound : Sound memory) (draft : Draft) :
    InsertOutcome memory draft (memory.insert draft) := by
  have taken_iff : memory.rows.any (·.isFor draft.name draft.cluster) = true ↔
      (contents memory).Registered draft.name draft.cluster := List.any_eq_true
  rw [insert]
  by_cases taken : (contents memory).Registered draft.name draft.cluster
  · rw [if_pos (taken_iff.mpr taken)]
    exact .conflict _ taken
  · rw [if_neg (mt taken_iff.mp taken)]
    cases next : nextId? memory.lastId with
    | none => exact .failed _ taken (.inl next)
    | some id =>
        have enters : (contents memory).Enters
            (contents { memory with lastId := id, rows := memory.rows ++ [draft.enter id] })
            draft (draft.enter id) :=
          ⟨taken, next, rfl, rfl, rfl, fun _ => rfl, rfl, rfl⟩
        exact .entered _ _ (Contents.Ordered.enters sound enters) enters

theorem deleteOutcome {memory : Memory} (sound : Sound memory) (id : Int64) :
    DeleteOutcome memory id (memory.delete id) := by
  rw [delete]
  by_cases present : memory.rows.any (·.id == id) = true
  · rw [if_pos present]
    rcases List.any_eq_true.mp present with ⟨record, member, equal⟩
    have removes : (contents memory).Removes
        (contents { memory with rows := memory.rows.filter (·.id != id) }) id :=
      { present := ⟨record, member, beq_iff_eq.mp equal⟩
        grants_subset := fun _ => List.Subset.refl _
        grants_other := fun _ _ _ granted => granted
        active_subset := fun _ marked => marked
        active_other := fun _ _ => rfl
        workloads := fun _ _ told => told
        rest := rfl }
    exact .removed _ (Contents.Ordered.removes sound removes) removes
  · rw [if_neg present]
    apply DeleteOutcome.missing
    intro record member equal
    exact present (List.any_eq_true.mpr ⟨record, member, beq_iff_eq.mpr equal⟩)

instance : LawfulStore Memory where
  ordered sound := sound
  listAll _ := rfl
  findById _ _ := rfl
  findByPair _ _ _ := rfl
  findUser _ _ := rfl
  grantsOf _ _ := rfl
  hasActive _ _ := rfl
  insert sound draft := insertOutcome sound draft
  delete sound id := deleteOutcome sound id
  grant sound user id := by
    refine .mk (grant _ user id) (sound.congr rfl rfl) ⟨?_, rfl⟩
    intro holder granted
    change granted ∈ grantsOf _ holder ↔ granted ∈ grantsOf _ holder ∨ _
    rw [mem_grantsOf, mem_grantsOf, grant, mem_insertNew, Prod.mk.injEq]
  revoke sound user id := by
    refine .mk (revoke _ user id) (sound.congr rfl rfl) ⟨?_, rfl⟩
    intro holder granted
    change granted ∈ grantsOf _ holder ↔ granted ∈ grantsOf _ holder ∧ _
    rw [mem_grantsOf, mem_grantsOf, revoke, mem_remove, Ne, Prod.mk.injEq]
  setWorkload {memory} sound id workload active := by
    have ordered : Sound (if active then memory.markActive id else memory.clearActive id) := by
      cases active <;> exact (sound.congr rfl rfl)
    refine .mk _ ordered ⟨?_, ?_, ?_, fun _ _ => .inl, ?_⟩
    · intro other different
      cases active with
      | true => exact hasActive_markActive_other memory different
      | false => exact hasActive_clearActive_other memory different
    · intro set
      subst set
      exact hasActive_markActive_same memory id
    · intro cleared marked
      subst cleared
      exact absurd ((hasActive_clearActive_same memory id).symm.trans marked) Bool.false_ne_true
    · cases active <;> rfl
  addUser {memory} sound user :=
    .added _ (sound.congr rfl rfl)
      ⟨findUser_addUser_same memory user,
        fun _ different => findUser_addUser_other memory user different, rfl⟩

end Memory

end Tenancy
