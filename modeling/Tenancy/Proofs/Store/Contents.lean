import Mathlib.Data.List.Nodup
import Tenancy.Proofs.Instant
import Tenancy.Store.Memory

/-! What a store holds, whichever way it keeps it, and the laws that every store obeys. A store is
read through `contents`; each of its operations either leaves it as it was or changes the contents
in one of a few ways, and each of these ways keeps the records in order. -/

namespace Tenancy

/-! ## Ids -/

theorem toInt_of_nextId? {last id : Int64} (next : nextId? last = some id) :
    id.toInt = last.toInt + 1 := by
  unfold nextId? at next
  by_cases full : last = Int64.maxValue
  · rw [if_pos full] at next
    cases next
  · rw [if_neg full] at next
    have below : last.toInt ≠ Int64.maxValue.toInt := fun equal => full (Int64.toInt_inj.mp equal)
    have upper := last.toInt_lt
    have lower := last.le_toInt
    have largest : Int64.maxValue.toInt = 2 ^ 63 - 1 := by decide
    rw [← Option.some.inj next, Int64.toInt_add]
    exact Int.bmod_eq_of_le (by simp; omega) (by simp; omega)

theorem lt_of_nextId? {last id : Int64} (next : nextId? last = some id) : last < id := by
  have step := toInt_of_nextId? next
  rw [Int64.lt_iff_toInt_lt]
  omega

/-! ## Sets and keys in lists -/

theorem mem_insertNew [DecidableEq α] {value other : α} {values : List α} :
    other ∈ insertNew value values ↔ other ∈ values ∨ other = value := by
  unfold insertNew
  split
  · constructor
    · exact Or.inl
    · intro either
      rcases either with member | rfl <;> assumption
  · simp

theorem insertNew_of_mem [DecidableEq α] {value : α} {values : List α} (member : value ∈ values) :
    insertNew value values = values :=
  if_pos member

theorem mem_remove [DecidableEq α] {value other : α} {values : List α} :
    other ∈ remove value values ↔ other ∈ values ∧ other ≠ value := by
  simp [remove]

/-- Where no key stands twice, searching for a key finds the value that has it. -/
theorem find?_key [BEq β] [LawfulBEq β] {key : α → β} {values : List α}
    (once : (values.map key).Nodup) (wanted : β) (value : α) :
    values.find? (key · == wanted) = some value ↔ value ∈ values ∧ key value = wanted := by
  constructor
  · intro found
    have passes := List.find?_some found
    exact ⟨List.mem_of_find?_eq_some found, eq_of_beq passes⟩
  · intro both
    rcases both with ⟨member, equal⟩
    cases search : values.find? (key · == wanted) with
    | none => exact absurd (beq_iff_eq.mpr equal) (List.find?_eq_none.mp search value member)
    | some other =>
        have passes := List.find?_some search
        have same : key other = key value := (eq_of_beq passes).trans equal.symm
        rw [List.inj_on_of_nodup_map once (List.mem_of_find?_eq_some search) member same]

theorem Registration.isFor_iff {registration : Registration} {name : String} {cluster : Int64} :
    registration.isFor name cluster = true ↔ registration.pair = (name, cluster) := by
  simp [isFor, pair]

/-! ## Contents -/

/-- What can be read off a store, and the last id it gave. -/
structure Contents where
  records : List Registration
  lastId : Int64
  users : Int64 → Option Principal
  grants : Int64 → List Int64
  active : Int64 → Bool
  /-- The workloads of a namespace, where the store tells them apart. -/
  workloads : Int64 → String → Prop

namespace Contents

/-- Every id was given in its turn, and no name is registered twice on a cluster. -/
structure Ordered (contents : Contents) : Prop where
  lastId_nonneg : 0 ≤ contents.lastId
  given : ∀ record ∈ contents.records, 0 < record.id ∧ record.id ≤ contents.lastId
  increasing : contents.records.Pairwise fun left right => left.id < right.id
  pairsOnce : (contents.records.map Registration.pair).Nodup

def empty : Contents := ⟨[], 0, fun _ => none, fun _ => [], fun _ => false, fun _ _ => False⟩

theorem ordered_empty : empty.Ordered :=
  ⟨by decide, fun _ member => absurd member List.not_mem_nil, .nil, .nil⟩

def Registered (contents : Contents) (name : String) (cluster : Int64) : Prop :=
  ∃ record ∈ contents.records, record.isFor name cluster

instance (contents : Contents) (name : String) (cluster : Int64) :
    Decidable (contents.Registered name cluster) :=
  inferInstanceAs (Decidable (∃ record ∈ contents.records, record.isFor name cluster))

/-- There is no room for the draft, whatever its name: no id is left, or its code is in use. -/
def Faults (contents : Contents) (draft : Draft) : Prop :=
  nextId? contents.lastId = none ∨ ∃ record ∈ contents.records, record.code = draft.code

instance (contents : Contents) (draft : Draft) : Decidable (contents.Faults draft) :=
  inferInstanceAs (Decidable (_ ∨ _))

/-- The id or the name of the user is taken. -/
def Clashes (contents : Contents) (user : Principal) : Prop :=
  ∃ id other, contents.users id = some other ∧
    (other.id = user.id ∨ other.username = user.username)

/-! ### Changes

Each says what becomes of the contents as a whole: what is not named stays. -/

/-- A draft is entered under the next id. A store may keep its time to the millisecond only. -/
structure Enters (before after : Contents) (draft : Draft) (record : Registration) : Prop where
  free : ¬before.Registered draft.name draft.cluster
  next : nextId? before.lastId = some record.id
  code : record.code = draft.code
  pair : record.pair = (draft.name, draft.cluster)
  owner : record.owner = draft.owner
  created : draft.createdAt.WholeMillis → record.createdAt = draft.createdAt
  updated : record.updatedAt = record.createdAt
  rest : after = { before with records := before.records ++ [record], lastId := record.id }

/-- The record goes. What named its id may go with it, and nothing else does. -/
structure Removes (before after : Contents) (id : Int64) : Prop where
  present : ∃ record ∈ before.records, record.id = id
  grants_subset : ∀ user, after.grants user ⊆ before.grants user
  grants_other : ∀ user other, other ≠ id → other ∈ before.grants user → other ∈ after.grants user
  active_subset : ∀ other, after.active other → before.active other
  active_other : ∀ other, other ≠ id → after.active other = before.active other
  workloads : ∀ other workload, after.workloads other workload → before.workloads other workload
  rest : after = { before with
    records := before.records.filter (·.id != id)
    grants := after.grants
    active := after.active
    workloads := after.workloads }

structure Grants (before after : Contents) (user id : Int64) : Prop where
  grants : ∀ holder granted, granted ∈ after.grants holder ↔
    granted ∈ before.grants holder ∨ (holder = user ∧ granted = id)
  rest : after = { before with grants := after.grants }

structure Revokes (before after : Contents) (user id : Int64) : Prop where
  grants : ∀ holder granted, granted ∈ after.grants holder ↔
    granted ∈ before.grants holder ∧ ¬(holder = user ∧ granted = id)
  rest : after = { before with grants := after.grants }

/-- One of the workloads of a namespace is set. The others may keep the namespace in use. -/
structure Marks (before after : Contents) (id : Int64) (workload : String) (active : Bool) :
    Prop where
  other : ∀ marked, marked ≠ id → after.active marked = before.active marked
  set : active → after.active id
  clear : active = false → after.active id → before.active id ∧
    ∃ other, other ≠ workload ∧ before.workloads id other
  workloads : ∀ marked other, after.workloads marked other →
    before.workloads marked other ∨ (marked = id ∧ other = workload)
  rest : after = { before with active := after.active, workloads := after.workloads }

structure AddsUser (before after : Contents) (user : Principal) : Prop where
  added : after.users user.id = some user
  other : ∀ id, id ≠ user.id → after.users id = before.users id
  rest : after = { before with users := after.users }

variable {before after contents : Contents}

theorem Enters.filter_isFor {draft : Draft} {record : Registration}
    (enters : before.Enters after draft record) :
    after.records.filter (·.isFor draft.name draft.cluster) = [record] := by
  have earlier : before.records.filter (·.isFor draft.name draft.cluster) = [] := by
    apply List.filter_eq_nil_iff.mpr
    intro other member named
    exact enters.free ⟨other, member, named⟩
  have named : record.isFor draft.name draft.cluster = true :=
    Registration.isFor_iff.mpr enters.pair
  simp [enters.rest, earlier, named]

/-- The grants for all other records stay. -/
theorem Removes.mem_grants {id other : Int64} (removes : before.Removes after id)
    (different : other ≠ id) (user : Int64) :
    other ∈ after.grants user ↔ other ∈ before.grants user :=
  ⟨fun member => removes.grants_subset user member,
    fun member => removes.grants_other user other different member⟩

/-! ### Order is kept -/

namespace Ordered

/-- Only the records and the last id count. -/
theorem congr (ordered : before.Ordered) (records : after.records = before.records)
    (lastId : after.lastId = before.lastId) : after.Ordered := by
  constructor
  · exact lastId ▸ ordered.lastId_nonneg
  · rw [records, lastId]
    exact ordered.given
  · exact records ▸ ordered.increasing
  · exact records ▸ ordered.pairsOnce

theorem idsOnce (ordered : contents.Ordered) : (contents.records.map (·.id)).Nodup := by
  apply List.pairwise_map.mpr
  exact ordered.increasing.imp fun smaller equal => by grind

theorem id_injective (ordered : contents.Ordered) :
    ∀ left ∈ contents.records, ∀ right ∈ contents.records, left.id = right.id → left = right := by
  intro left leftMember right rightMember equal
  exact List.inj_on_of_nodup_map ordered.idsOnce leftMember rightMember equal

theorem find?_id (ordered : contents.Ordered) (id : Int64) (record : Registration) :
    contents.records.find? (·.id == id) = some record ↔
      record ∈ contents.records ∧ record.id = id :=
  find?_key ordered.idsOnce id record

theorem find?_pair (ordered : contents.Ordered) (name : String) (cluster : Int64)
    (record : Registration) :
    contents.records.find? (·.isFor name cluster) = some record ↔
      record ∈ contents.records ∧ record.pair = (name, cluster) :=
  find?_key ordered.pairsOnce (name, cluster) record

/-- There are no more records than ids were given. -/
theorem length_le (ordered : contents.Ordered) : contents.records.length ≤ contents.lastId.toInt := by
  have bounded (low : Int) (low_le : low ≤ contents.lastId.toInt) (records : List Registration)
      (increasing : records.Pairwise fun left right => left.id < right.id)
      (inside : ∀ record ∈ records,
        low < record.id.toInt ∧ record.id.toInt ≤ contents.lastId.toInt) :
      low + records.length ≤ contents.lastId.toInt := by
    induction records generalizing low with
    | nil => simpa using low_le
    | cons head rest induction =>
        rw [List.pairwise_cons] at increasing
        have first := inside head List.mem_cons_self
        have later := induction head.id.toInt first.2 increasing.2 fun record member =>
          ⟨Int64.lt_iff_toInt_lt.mp (increasing.1 record member),
            (inside record (List.mem_cons_of_mem head member)).2⟩
        rw [List.length_cons]
        omega
  have lastId_nonneg := Int64.le_iff_toInt_le.mp ordered.lastId_nonneg
  have all := bounded 0 lastId_nonneg contents.records ordered.increasing fun record member =>
    ⟨Int64.lt_iff_toInt_lt.mp (ordered.given record member).1,
      Int64.le_iff_toInt_le.mp (ordered.given record member).2⟩
  omega

/-- The next id stands above every id given before, so the new record goes to the end. -/
theorem enters {draft : Draft} {record : Registration} (ordered : before.Ordered)
    (enters : before.Enters after draft record) : after.Ordered := by
  have above := lt_of_nextId? enters.next
  have lastId_nonneg := ordered.lastId_nonneg
  rw [enters.rest]
  constructor
  · change 0 ≤ record.id
    grind
  · intro other member
    rcases List.mem_append.mp member with earlier | last
    · have given := ordered.given other earlier
      change 0 < other.id ∧ other.id ≤ record.id
      grind
    · rw [List.mem_singleton.mp last]
      change 0 < record.id ∧ record.id ≤ record.id
      grind
  · apply List.pairwise_append.mpr
    refine ⟨ordered.increasing, List.pairwise_singleton _ _, ?_⟩
    intro other earlier last lastMember
    have given := ordered.given other earlier
    rw [List.mem_singleton.mp lastMember]
    grind
  · change ((before.records ++ [record]).map Registration.pair).Nodup
    rw [List.map_append]
    apply List.nodup_append.mpr
    refine ⟨ordered.pairsOnce, by simp, ?_⟩
    intro pair earlier last lastMember equal
    rcases List.mem_map.mp earlier with ⟨other, member, rfl⟩
    rw [List.map_singleton, List.mem_singleton] at lastMember
    apply enters.free
    exact ⟨other, member, Registration.isFor_iff.mpr (equal.trans (lastMember.trans enters.pair))⟩

theorem removes {id : Int64} (ordered : before.Ordered) (removes : before.Removes after id) :
    after.Ordered := by
  have shorter : (before.records.filter (·.id != id)).Sublist before.records :=
    List.filter_sublist
  rw [removes.rest]
  constructor
  · exact ordered.lastId_nonneg
  · intro record member
    exact ordered.given record (shorter.subset member)
  · exact ordered.increasing.sublist shorter
  · exact ordered.pairsOnce.sublist (shorter.map _)

end Ordered

/-- The name of a record that is taken out is free. -/
theorem Removes.not_registered {record : Registration} (removes : before.Removes after record.id)
    (ordered : before.Ordered) (member : record ∈ before.records) :
    ¬after.Registered record.name record.cluster := by
  rintro ⟨other, left, isFor⟩
  rw [removes.rest, List.mem_filter, bne_iff_ne] at left
  have same : other = record := List.inj_on_of_nodup_map ordered.pairsOnce left.1 member
    (Registration.isFor_iff.mp isFor)
  exact left.2 (congrArg Registration.id same)

end Contents

end Tenancy
