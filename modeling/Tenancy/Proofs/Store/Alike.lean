import Tenancy.Proofs.Store.Lawful

/-! Two stores side by side. They need not hold the same: one may keep the grants and marks of a
deleted record where the other drops them. What they hold is alike as long as it differs in such
ids only, and every operation on both keeps it alike. -/

namespace Tenancy

namespace Contents

/-- An id that a record has, or that one may still get. Any other is never asked about. -/
def Matters (contents : Contents) (id : Int64) : Prop :=
  (∃ record ∈ contents.records, record.id = id) ∨ contents.lastId < id

structure Alike (left right : Contents) : Prop where
  records : left.records = right.records
  lastId : left.lastId = right.lastId
  users : ∀ id, left.users id = right.users id
  grants : ∀ user id, left.Matters id → (id ∈ left.grants user ↔ id ∈ right.grants user)
  active : ∀ id, left.Matters id → left.active id = right.active id

variable {before after left right leftAfter rightAfter : Contents}

theorem Alike.refl (contents : Contents) : contents.Alike contents :=
  ⟨rfl, rfl, fun _ => rfl, fun _ _ _ => .rfl, fun _ _ => rfl⟩

/-! ## Records -/

/-- Nothing stands in the way of the draft but a record of its name. -/
structure Takes (contents : Contents) (draft : Draft) : Prop where
  whole : draft.createdAt.WholeMillis
  faultless : ¬contents.Faults draft

theorem Alike.takes {draft : Draft} (alike : left.Alike right) (takes : left.Takes draft) :
    right.Takes draft := by
  refine ⟨takes.whole, ?_⟩
  rw [Faults, ← alike.records, ← alike.lastId]
  exact takes.faultless

theorem Enters.record_eq {draft : Draft} {record : Registration}
    (enters : before.Enters after draft record) (whole : draft.createdAt.WholeMillis) :
    record = draft.enter record.id := by
  have code := enters.code
  have pair := enters.pair
  have owner := enters.owner
  have created := enters.created whole
  have updated := enters.updated
  cases record
  simp_all [Registration.pair, Draft.enter]

/-- An id that matters once a record is entered mattered before: the new id was still to come. -/
theorem Enters.matters {draft : Draft} {record : Registration} {id : Int64}
    (enters : before.Enters after draft record) (matters : after.Matters id) :
    before.Matters id := by
  have above := lt_of_nextId? enters.next
  rw [Matters, enters.rest] at matters
  rcases matters with ⟨other, member, equal⟩ | later
  · rcases List.mem_append.mp member with earlier | last
    · exact .inl ⟨other, earlier, equal⟩
    · rw [List.mem_singleton.mp last] at equal
      exact .inr (equal ▸ above)
  · change record.id < id at later
    right
    grind

theorem Alike.enters {draft : Draft} {leftRecord rightRecord : Registration}
    (alike : left.Alike right) (whole : draft.createdAt.WholeMillis)
    (leftEnters : left.Enters leftAfter draft leftRecord)
    (rightEnters : right.Enters rightAfter draft rightRecord) :
    leftRecord = rightRecord ∧ leftAfter.Alike rightAfter := by
  have id : leftRecord.id = rightRecord.id := by
    have next := rightEnters.next
    rw [← alike.lastId, leftEnters.next] at next
    exact Option.some.inj next
  have record : leftRecord = rightRecord := by
    rw [leftEnters.record_eq whole, rightEnters.record_eq whole, id]
  refine ⟨record, ?_, ?_, ?_, ?_, ?_⟩
  · rw [leftEnters.rest, rightEnters.rest, alike.records, record]
  · rw [leftEnters.rest, rightEnters.rest, id]
  · rw [leftEnters.rest, rightEnters.rest]
    exact alike.users
  · intro user id matters
    have mattered := leftEnters.matters matters
    rw [leftEnters.rest, rightEnters.rest]
    exact alike.grants user id mattered
  · intro id matters
    have mattered := leftEnters.matters matters
    rw [leftEnters.rest, rightEnters.rest]
    exact alike.active id mattered

/-- An id that matters once a record is removed is another one, and mattered before. -/
theorem Removes.matters {id other : Int64} (ordered : before.Ordered)
    (removes : before.Removes after id) (matters : after.Matters other) :
    before.Matters other ∧ other ≠ id := by
  rw [Matters, removes.rest] at matters
  rcases matters with ⟨record, member, equal⟩ | later
  · have kept := List.mem_filter.mp member
    exact ⟨.inl ⟨record, kept.1, equal⟩, equal ▸ bne_iff_ne.mp kept.2⟩
  · change before.lastId < other at later
    rcases removes.present with ⟨record, member, equal⟩
    have given := ordered.given record member
    refine ⟨.inr later, ?_⟩
    grind

theorem Alike.removes {id : Int64} (alike : left.Alike right) (ordered : left.Ordered)
    (leftRemoves : left.Removes leftAfter id) (rightRemoves : right.Removes rightAfter id) :
    leftAfter.Alike rightAfter := by
  constructor
  · rw [leftRemoves.rest, rightRemoves.rest, alike.records]
  · rw [leftRemoves.rest, rightRemoves.rest, alike.lastId]
  · rw [leftRemoves.rest, rightRemoves.rest]
    exact alike.users
  · intro user other matters
    have mattered := leftRemoves.matters ordered matters
    rw [leftRemoves.mem_grants mattered.2, rightRemoves.mem_grants mattered.2]
    exact alike.grants user other mattered.1
  · intro other matters
    have mattered := leftRemoves.matters ordered matters
    rw [leftRemoves.active_other other mattered.2, rightRemoves.active_other other mattered.2]
    exact alike.active other mattered.1

/-! ## Grants, workloads and users -/

/-- The records stay, so the same ids matter. -/
theorem Alike.beside {leftUsers rightUsers : Int64 → Option Principal}
    {leftGrants rightGrants : Int64 → List Int64} {leftActive rightActive : Int64 → Bool}
    {leftWorkloads rightWorkloads : Int64 → String → Prop} (alike : left.Alike right)
    (users : ∀ id, leftUsers id = rightUsers id)
    (grants : ∀ user id, left.Matters id → (id ∈ leftGrants user ↔ id ∈ rightGrants user))
    (active : ∀ id, left.Matters id → leftActive id = rightActive id) :
    Alike ⟨left.records, left.lastId, leftUsers, leftGrants, leftActive, leftWorkloads⟩
      ⟨right.records, right.lastId, rightUsers, rightGrants, rightActive, rightWorkloads⟩ :=
  ⟨alike.records, alike.lastId, users, grants, active⟩

theorem Alike.grant {user id : Int64} (alike : left.Alike right)
    (leftGrants : left.Grants leftAfter user id) (rightGrants : right.Grants rightAfter user id) :
    leftAfter.Alike rightAfter := by
  rw [leftGrants.rest, rightGrants.rest]
  apply alike.beside alike.users _ alike.active
  intro holder other matters
  rw [leftGrants.grants, rightGrants.grants, alike.grants holder other matters]

theorem Alike.revoke {user id : Int64} (alike : left.Alike right)
    (leftRevokes : left.Revokes leftAfter user id)
    (rightRevokes : right.Revokes rightAfter user id) : leftAfter.Alike rightAfter := by
  rw [leftRevokes.rest, rightRevokes.rest]
  apply alike.beside alike.users _ alike.active
  intro holder other matters
  rw [leftRevokes.grants, rightRevokes.grants, alike.grants holder other matters]

/-- No workload but this one is told apart for the id, so the id is in use exactly if this one is.
-/
theorem Marks.active_eq {id : Int64} {workload : String} {active : Bool}
    (marks : before.Marks after id workload active)
    (single : ∀ other, before.workloads id other → other = workload) :
    after.active id = active := by
  cases active with
  | true => exact marks.set rfl
  | false =>
      rw [← Bool.not_eq_true]
      intro marked
      rcases (marks.clear rfl marked).2 with ⟨other, different, told⟩
      exact different (single other told)

theorem Alike.mark {id : Int64} {workload : String} {active : Bool} (alike : left.Alike right)
    (leftMarks : left.Marks leftAfter id workload active)
    (rightMarks : right.Marks rightAfter id workload active)
    (leftSingle : ∀ other, left.workloads id other → other = workload)
    (rightSingle : ∀ other, right.workloads id other → other = workload) :
    leftAfter.Alike rightAfter := by
  rw [leftMarks.rest, rightMarks.rest]
  apply alike.beside alike.users alike.grants
  intro other matters
  by_cases same : other = id
  · rw [same, leftMarks.active_eq leftSingle, rightMarks.active_eq rightSingle]
  · rw [leftMarks.other other same, rightMarks.other other same]
    exact alike.active other matters

theorem Alike.addUser {user : Principal} (alike : left.Alike right)
    (leftAdds : left.AddsUser leftAfter user) (rightAdds : right.AddsUser rightAfter user) :
    leftAfter.Alike rightAfter := by
  rw [leftAdds.rest, rightAdds.rest]
  apply alike.beside _ alike.grants alike.active
  intro id
  by_cases same : id = user.id
  · rw [same, leftAdds.added, rightAdds.added]
  · rw [leftAdds.other id same, rightAdds.other id same]
    exact alike.users id

end Contents

/-! ## Outcomes -/

open Readable

/-- The same outcome, or a conflict on both sides. Each store words a conflict its own way. -/
inductive SameOutcome : Except StoreError α → Except StoreError α → Prop
  | same (outcome : Except StoreError α) : SameOutcome outcome outcome
  | conflicts (left right : String) :
      SameOutcome (.error (.conflict left)) (.error (.conflict right))

theorem SameOutcome.map {left right : Except StoreError α} (same : SameOutcome left right)
    (transform : α → β) : SameOutcome (left.map transform) (right.map transform) := by
  cases same with
  | same => exact .same _
  | conflicts => exact .conflicts _ _

section

variable [Readable σ] [Readable τ] {left : σ} {right : τ}

theorem Contents.Alike.insertOutcome {draft : Draft}
    {leftResult : Except StoreError Registration × σ}
    {rightResult : Except StoreError Registration × τ}
    (alike : (contents left).Alike (contents right)) (takes : (contents left).Takes draft)
    (leftOutcome : InsertOutcome left draft leftResult)
    (rightOutcome : InsertOutcome right draft rightResult) :
    SameOutcome leftResult.1 rightResult.1 ∧
      (contents leftResult.2).Alike (contents rightResult.2) := by
  have registered_iff : (contents left).Registered draft.name draft.cluster ↔
      (contents right).Registered draft.name draft.cluster := by
    rw [Contents.Registered, Contents.Registered, alike.records]
  cases leftOutcome with
  | failed text free fault => exact absurd fault takes.faultless
  | conflict leftText taken =>
      cases rightOutcome with
      | conflict rightText => exact ⟨.conflicts _ _, alike⟩
      | failed text free => exact absurd (registered_iff.mp taken) free
      | entered record next sound enters => exact absurd (registered_iff.mp taken) enters.free
  | entered leftRecord leftNext leftSound leftEnters =>
      cases rightOutcome with
      | conflict text taken => exact absurd (registered_iff.mpr taken) leftEnters.free
      | failed text free fault => exact absurd fault (alike.takes takes).faultless
      | entered rightRecord rightNext rightSound rightEnters =>
          rcases alike.enters takes.whole leftEnters rightEnters with ⟨record, after⟩
          rw [record]
          exact ⟨.same _, after⟩

theorem Contents.Alike.deleteOutcome {id : Int64} {leftResult : Except StoreError Unit × σ}
    {rightResult : Except StoreError Unit × τ}
    (alike : (contents left).Alike (contents right)) (ordered : (contents left).Ordered)
    (leftOutcome : DeleteOutcome left id leftResult)
    (rightOutcome : DeleteOutcome right id rightResult) :
    SameOutcome leftResult.1 rightResult.1 ∧
      (contents leftResult.2).Alike (contents rightResult.2) := by
  cases leftOutcome with
  | missing absent =>
      cases rightOutcome with
      | missing => exact ⟨.same _, alike⟩
      | removed next sound removes =>
          rcases removes.present with ⟨record, member, equal⟩
          exact absurd equal (absent record (alike.records ▸ member))
  | removed leftNext leftSound leftRemoves =>
      cases rightOutcome with
      | missing absent =>
          rcases leftRemoves.present with ⟨record, member, equal⟩
          exact absurd equal (absent record (alike.records ▸ member))
      | removed rightNext rightSound rightRemoves =>
          exact ⟨.same _, alike.removes ordered leftRemoves rightRemoves⟩

theorem Contents.Alike.addUserOutcome {user : Principal} {leftResult : Except StoreError Unit × σ}
    {rightResult : Except StoreError Unit × τ}
    (alike : (contents left).Alike (contents right)) (free : ¬(contents left).Clashes user)
    (leftOutcome : AddUserOutcome left user leftResult)
    (rightOutcome : AddUserOutcome right user rightResult) :
    SameOutcome leftResult.1 rightResult.1 ∧
      (contents leftResult.2).Alike (contents rightResult.2) := by
  cases leftOutcome with
  | refused error clashes => exact absurd clashes free
  | added leftNext leftSound leftAdds =>
      cases rightOutcome with
      | refused error clashes =>
          rcases clashes with ⟨id, other, known, taken⟩
          exact absurd ⟨id, other, (alike.users id).trans known, taken⟩ free
      | added rightNext rightSound rightAdds => exact ⟨.same _, alike.addUser leftAdds rightAdds⟩

/-- An operation that always succeeds keeps the contents alike if its change does. -/
theorem Contents.Alike.updated {Change : Contents → Contents → Prop}
    {leftResult : Except StoreError Unit × σ} {rightResult : Except StoreError Unit × τ}
    (kept : ∀ leftAfter rightAfter, Change (contents left) leftAfter →
      Change (contents right) rightAfter → leftAfter.Alike rightAfter)
    (leftUpdated : Updated left Change leftResult)
    (rightUpdated : Updated right Change rightResult) :
    SameOutcome leftResult.1 rightResult.1 ∧
      (contents leftResult.2).Alike (contents rightResult.2) := by
  cases leftUpdated with
  | mk leftNext leftSound leftChange =>
      cases rightUpdated with
      | mk rightNext rightSound rightChange =>
          exact ⟨.same _, kept _ _ leftChange rightChange⟩

end

end Tenancy
