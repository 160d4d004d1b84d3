import Tenancy.Proofs.History.Change

/-! Ids are given in their turn and never again, so a new record meets no grant and no workload mark
that was meant for an earlier one: nobody but its owner and the admins sees it. -/

namespace Tenancy

open Readable Registry

/-! ## The ids of a history -/

/-- The ids issued so far, in order, are all ids up to the last one given. -/
structure Tracks (issued : List Int64) (contents : Contents) : Prop where
  increasing : issued.Pairwise fun left right => left < right
  mem_iff : ∀ id, id ∈ issued ↔ 0 < id ∧ id ≤ contents.lastId

namespace Tracks

variable {issued : List Int64} {before after : Contents} {operation : Operation} {answer : Answer}

theorem enters {draft : Draft} {record : Registration} (tracks : Tracks issued before)
    (nonneg : 0 ≤ before.lastId) (enters : before.Enters after draft record) :
    Tracks (issued ++ [record.id]) after := by
  have above := lt_of_nextId? enters.next
  have step := toInt_of_nextId? enters.next
  constructor
  · apply List.pairwise_append.mpr
    refine ⟨tracks.increasing, List.pairwise_singleton _ _, ?_⟩
    intro earlier earlierMember last lastMember
    have bound := (tracks.mem_iff earlier).mp earlierMember
    rw [List.mem_singleton.mp lastMember]
    grind
  · intro id
    rw [List.mem_append, List.mem_singleton, tracks.mem_iff, enters.rest]
    change 0 < id ∧ id ≤ before.lastId ∨ id = record.id ↔ 0 < id ∧ id ≤ record.id
    rw [← Int64.toInt_inj, Int64.lt_iff_toInt_lt, Int64.le_iff_toInt_le, Int64.le_iff_toInt_le]
    rw [Int64.le_iff_toInt_le] at nonneg
    have zero : (0 : Int64).toInt = 0 := by decide
    omega

/-- One operation issues the next id or none. -/
theorem step (tracks : Tracks issued before) (ordered : before.Ordered)
    (change : Change operation answer before after) :
    Tracks (issued ++ answer.issued?.toList) after := by
  rcases change.lastId_cases with ⟨none, lastId⟩ | ⟨draft, record, some, enters⟩
  · rw [none, Option.toList_none, List.append_nil]
    exact ⟨tracks.increasing, lastId ▸ tracks.mem_iff⟩
  · rw [some, Option.toList_some]
    exact tracks.enters ordered.lastId_nonneg enters

end Tracks

section

variable [Store σ] [Readable σ] [LawfulStore σ] {world : World σ Clusters}

theorem Tracks.after {issued : List Int64} (sound : Sound world.store)
    (tracks : Tracks issued (contents world.store)) (history : List Operation) :
    Tracks (issued ++ world.issued history) (contents (world.after history).store) := by
  induction history generalizing world issued with
  | nil => exact (List.append_nil issued).symm ▸ tracks
  | cons operation rest induction =>
      have changed := change_perform sound operation
      rw [World.issued_cons, ← List.append_assoc]
      exact induction changed.1 (tracks.step (LawfulStore.ordered sound) changed.2)

end

theorem tracks_empty : Tracks [] Contents.empty := by
  constructor
  · exact .nil
  · intro id
    change id ∈ [] ↔ 0 < id ∧ id ≤ 0
    grind

/-! ## Grants and marks -/

/-- The id a grant or a workload mark names. To revoke or to clear names none: neither adds
anything. -/
def Operation.marked? : Operation → Option Int64
  | grant _ id | setWorkload id _ true => some id
  | _ => none

/-- Grants and marks name only ids issued earlier in the history, or in what went before it. -/
def World.MarksIssued [Store σ] (world : World σ Clusters) (issued : List Int64) :
    List Operation → Prop
  | [] => True
  | operation :: rest =>
      (∀ id ∈ operation.marked?, id ∈ issued) ∧
        (operation.perform world).2.MarksIssued
          (issued ++ (operation.perform world).1.issued?.toList) rest

instance World.decidableMarksIssued [Store σ] : (world : World σ Clusters) →
    (issued : List Int64) → (history : List Operation) →
      Decidable (world.MarksIssued issued history)
  | _, _, [] => inferInstanceAs (Decidable True)
  | world, issued, operation :: rest =>
      have := operation.marked?.decidableForallMem (p := (· ∈ issued))
      have := World.decidableMarksIssued (operation.perform world).2
        (issued ++ (operation.perform world).1.issued?.toList) rest
      inferInstanceAs (Decidable (_ ∧ _))

/-- No grant and no mark waits for a record still to come. -/
structure Contents.Settled (contents : Contents) : Prop where
  grants : ∀ user id, id ∈ contents.grants user → id ≤ contents.lastId
  active : ∀ id, contents.active id = true → id ≤ contents.lastId

theorem Contents.settled_empty : Contents.empty.Settled :=
  ⟨fun _ _ member => absurd member List.not_mem_nil,
    fun _ marked => absurd marked Bool.false_ne_true⟩

namespace Contents.Settled

variable {before after : Contents} {operation : Operation} {answer : Answer}

/-- Only a grant or a mark could unsettle the contents, and it names an id given before. -/
theorem step (settled : before.Settled) (change : Change operation answer before after)
    (named : ∀ id ∈ operation.marked?, id ≤ before.lastId) : after.Settled := by
  cases change with
  | kept => exact settled
  | registered enters | inserted enters =>
      have above := lt_of_nextId? enters.next
      rw [enters.rest]
      constructor
      · intro user id member
        have bound := settled.grants user id member
        change id ≤ _
        grind
      · intro id marked
        have bound := settled.active id marked
        change id ≤ _
        grind
  | removed none removes =>
      have lastId : after.lastId = before.lastId := by rw [removes.rest]
      constructor
      · intro user id member
        exact lastId ▸ settled.grants user id (removes.grants_subset user member)
      · intro id marked
        exact lastId ▸ settled.active id (removes.active_subset id marked)
  | granted none grants =>
      have lastId : after.lastId = before.lastId := by rw [grants.rest]
      constructor
      · intro user granted member
        rcases (grants.grants user granted).mp member with earlier | ⟨_, equal⟩
        · exact lastId ▸ settled.grants user granted earlier
        · exact lastId ▸ named granted (equal ▸ rfl)
      · rw [grants.rest]
        exact settled.active
  | revoked none revokes =>
      have lastId : after.lastId = before.lastId := by rw [revokes.rest]
      constructor
      · intro user granted member
        exact lastId ▸ settled.grants user granted ((revokes.grants user granted).mp member).1
      · rw [revokes.rest]
        exact settled.active
  | @marked _ _ _ id _ active none marks =>
      have lastId : after.lastId = before.lastId := by rw [marks.rest]
      constructor
      · rw [marks.rest]
        exact settled.grants
      · intro other marked
        by_cases equal : other = id
        · subst other
          cases active with
          | true => exact lastId ▸ named id rfl
          | false => exact lastId ▸ settled.active id (marks.clear rfl marked).1
        · exact lastId ▸ settled.active other (marks.other other equal ▸ marked)
  | added none adds =>
      rw [adds.rest]
      exact ⟨settled.grants, settled.active⟩

end Contents.Settled

theorem Contents.Settled.after [Store σ] [Readable σ] [LawfulStore σ] {world : World σ Clusters}
    {issued : List Int64} {history : List Operation} (sound : Sound world.store)
    (tracks : Tracks issued (contents world.store)) (settled : (contents world.store).Settled)
    (marksIssued : world.MarksIssued issued history) :
    (contents (world.after history).store).Settled := by
  induction history generalizing world issued with
  | nil => exact settled
  | cons operation rest induction =>
      have changed := change_perform sound operation
      have named : ∀ id ∈ operation.marked?, id ≤ (contents world.store).lastId :=
        fun id marked => ((tracks.mem_iff id).mp (marksIssued.1 id marked)).2
      exact induction changed.1 (tracks.step (LawfulStore.ordered sound) changed.2)
        (settled.step changed.2 named) marksIssued.2

/-! ## Fresh records -/

/-- Nobody sees the record but its owner and the admins, and it is not in use. -/
structure Private [Store σ] (world : World σ Clusters) (record : Registration) (owner : Principal) :
    Prop where
  partition : ∀ user, ∃ split, (world.run (Registry.partition user)).1 = .ok split ∧
    (record ∈ split.authorized ↔ user.isAdmin = true ∨ user.id = owner.id)
  available : ∀ user, user.isAdmin = false → user.id ≠ owner.id →
    ∃ listed, (world.run (Registry.available user)).1 = .ok listed ∧
      ∀ other ∈ listed, other.id ≠ record.id
  pagedList : ∀ user, user.isAdmin = false → user.id ≠ owner.id →
    ∀ limit search number size page,
      (world.run (Registry.pagedList limit user search number size)).1 = .ok page →
      ∀ other ∈ page.items, other.id ≠ record.id
  hasActive : Store.hasActive world.store record.id = .ok false

section

variable [Store σ] [Readable σ] [LawfulStore σ] {world : World σ Clusters}

/-- Where nothing names the id of a record, it is visible by ownership and role alone. -/
theorem mem_visibleTo_iff {contents : Contents} {record : Registration}
    (member : record ∈ contents.records) (ungranted : ∀ user, record.id ∉ contents.grants user)
    (user : Principal) :
    record ∈ contents.visibleTo user ↔ user.isAdmin = true ∨ record.owner = user.id := by
  rw [Contents.visibleTo, List.mem_filter, isAuthorized_iff]
  constructor
  · intro visible
    rcases visible.2 with admin | owns | granted
    · exact .inl admin
    · exact .inr owns
    · exact absurd granted (ungranted user.id)
  · intro reason
    rcases reason with admin | owns
    · exact ⟨member, .inl admin⟩
    · exact ⟨member, .inr (.inl owns)⟩

theorem private_of_ungranted {record : Registration} {owner : Principal}
    (sound : Sound world.store) (member : record ∈ (contents world.store).records)
    (owned : record.owner = owner.id)
    (ungranted : ∀ user, record.id ∉ (contents world.store).grants user)
    (unused : (contents world.store).active record.id = false) : Private world record owner := by
  have hidden (user : Principal) (general : user.isAdmin = false) (different : user.id ≠ owner.id) :
      ∀ other ∈ (contents world.store).visibleTo user, other.id ≠ record.id := by
    intro other visible equal
    have otherMember := (List.mem_filter.mp visible).1
    have same : other = record :=
      (LawfulStore.ordered sound).id_injective other otherMember record member equal
    rw [same, mem_visibleTo_iff member ungranted, general, owned] at visible
    rcases visible with admin | owns
    · exact Bool.false_ne_true admin
    · exact different owns.symm
  constructor
  · intro user
    refine ⟨_, congrArg Prod.fst (run_partition sound user), ?_⟩
    rw [mem_visibleTo_iff member ungranted, owned, eq_comm (a := owner.id)]
  · intro user general different
    refine ⟨_, congrArg Prod.fst (run_available sound user), ?_⟩
    intro other listed
    exact hidden user general different other
      (List.mem_mergeSort.mp (mem_of_mem_firstPerPair listed))
  · intro user general different limit search number size page ran other listed
    rw [run_pagedList sound] at ran
    cases checked : checkPage number size limit with
    | error fault => simp [checked] at ran
    | ok _ =>
        simp only [checked, Except.ok.injEq] at ran
        subst ran
        exact hidden user general different other
          (mem_of_mem_matching (List.mem_mergeSort.mp (mem_of_mem_page listed)))
  · rw [LawfulStore.hasActive sound, unused]

/-- A registration from settled contents is private: its id stands above all that was ever named. -/
theorem private_of_settled {caller : Principal} {name : String} {cluster : Int64} {stamp : Stamp}
    {record : Registration} (sound : Sound world.store) (settled : (contents world.store).Settled)
    (ok : (world.run (register caller name cluster stamp)).1 = .ok record) :
    Private (world.run (register caller name cluster stamp)).2 record caller := by
  rcases register_cases sound caller name cluster stamp with
    ⟨error, gateway, ran⟩ | ⟨entered, next, gateway, ran, nextSound, enters⟩
  · simp [ran] at ok
  · simp only [ran, Except.ok.injEq] at ok ⊢
    subst ok
    have above := lt_of_nextId? enters.next
    apply private_of_ungranted nextSound
    · simp [enters.rest]
    · exact enters.owner
    · intro user granted
      simp only [enters.rest] at granted
      have bound := settled.grants user entered.id granted
      grind
    · simp only [enters.rest]
      rw [← Bool.not_eq_true]
      intro marked
      have bound := settled.active entered.id marked
      grind

end

/-- Over either back end, ids are issued in increasing order with none left out, whatever is deleted
in between, and an insert that fails leaves the store as it was. So where grants and marks name only
issued ids, a new record is private. -/
theorem fresh_records_are_private (backEnd : BackEnd) (clusters : Clusters)
    (history : List Operation) :
    let start := backEnd.start clusters
    let world := start.after history
    (start.issued history).Pairwise (fun earlier later => earlier < later) ∧
    (∀ id ∈ start.issued history, ∀ lower, 0 < lower → lower < id → lower ∈ start.issued history) ∧
    (∀ draft error, (Store.insert world.store draft).1 = .error error →
      (Store.insert world.store draft).2 = world.store) ∧
    (start.MarksIssued [] history → ∀ caller name cluster stamp record,
      (world.run (register caller name cluster stamp)).1 = .ok record →
      Private (world.run (register caller name cluster stamp)).2 record caller) := by
  intro start world
  have soundStart : Sound start.store := backEnd.sound_fresh
  have contentsStart : contents start.store = Contents.empty := backEnd.contents_fresh
  have sound : Sound world.store := backEnd.sound_after clusters history
  have tracksStart : Tracks [] (contents start.store) := contentsStart ▸ tracks_empty
  have tracks : Tracks (start.issued history) (contents world.store) :=
    tracksStart.after soundStart history
  refine ⟨tracks.increasing, ?_, ?_, ?_⟩
  · intro id issued lower positive below
    have bound := (tracks.mem_iff id).mp issued
    apply (tracks.mem_iff lower).mpr
    grind
  · intro draft error failed
    have outcome := LawfulStore.insert sound draft
    generalize Store.insert world.store draft = result at outcome failed
    cases outcome with
    | conflict | failed => rfl
    | entered => cases failed
  · intro marksIssued caller name cluster stamp record ok
    have settledStart : (contents start.store).Settled := contentsStart ▸ Contents.settled_empty
    have settled : (contents world.store).Settled :=
      Contents.Settled.after soundStart tracksStart settledStart marksIssued
    exact private_of_settled sound settled ok

/-- A grant and a workload mark outlive the record they were for. -/
def outlived : List Operation := [
  .request (.register ⟨7, "alice", .general⟩ "team-x" 100 ⟨1, .epoch⟩),
  .grant 8 1,
  .request (.deregister ⟨7, "alice", .general⟩ 1),
  .setWorkload 1 "etl" true]

theorem record_after_outlived_is_private :
    let start := BackEnd.memory.start (.withCodes [100])
    let again := register ⟨7, "alice", .general⟩ "team-x" 100 ⟨2, .epoch⟩
    start.MarksIssued [] outlived ∧
      ∃ record, ((start.after outlived).run again).1 = .ok record ∧
        Private ((start.after outlived).run again).2 record ⟨7, "alice", .general⟩ := by
  intro start again
  have marksIssued : start.MarksIssued [] outlived := by decide +kernel
  have ok : ((start.after outlived).run again).1 =
      .ok ⟨2, 2, "team-x", 100, 7, .epoch, .epoch⟩ := by decide +kernel
  have fresh := fresh_records_are_private .memory (.withCodes [100]) outlived
  exact ⟨marksIssued, _, ok, fresh.2.2.2 marksIssued _ _ _ _ _ ok⟩

end Tenancy
