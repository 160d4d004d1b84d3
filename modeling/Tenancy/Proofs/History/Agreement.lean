import Tenancy.Proofs.History.Change
import Tenancy.Proofs.Store.Alike

/-! The two back ends give the same answers. They come to hold different things, since a deleted
record takes its grants and workload references along in one of them only, but the difference is
in ids that nobody has and nobody will get. -/

namespace Tenancy

open Readable Registry

/-! ## Comparable histories -/

/-- What an operation would have entered. -/
def Operation.draft? : Operation → Option Draft
  | request (.register caller name cluster stamp) => some (draft caller name cluster stamp)
  | insert draft => some draft
  | _ => none

def Operation.user? : Operation → Option Principal
  | addUser user => some user
  | _ => none

def draftsOf (history : List Operation) : List Draft :=
  history.filterMap Operation.draft?

def usersOf (history : List Operation) : List Principal :=
  history.filterMap Operation.user?

/-- Only one of the back ends looks at codes, usernames and the names of workloads, or cuts a time
off at the millisecond. In a comparable history this does not show. -/
structure Comparable (workload : Int64 → String) (history : List Operation) : Prop where
  wholeMillis : ∀ draft ∈ draftsOf history, draft.createdAt.WholeMillis
  codesOnce : ((draftsOf history).map Draft.code).Nodup
  idsLeft : (draftsOf history).length < Int64.maxValue.toInt
  userIdsOnce : ((usersOf history).map Principal.id).Nodup
  usernamesOnce : ((usersOf history).map Principal.username).Nodup
  workloads : ∀ id name active, .setWorkload id name active ∈ history → name = workload id

theorem draftsOf_append (earlier later : List Operation) :
    draftsOf (earlier ++ later) = draftsOf earlier ++ draftsOf later :=
  List.filterMap_append

theorem usersOf_append (earlier later : List Operation) :
    usersOf (earlier ++ later) = usersOf earlier ++ usersOf later :=
  List.filterMap_append

theorem draftsOf_cons {operation : Operation} {draft : Draft}
    (drafts : operation.draft? = some draft) (rest : List Operation) :
    draftsOf (operation :: rest) = draft :: draftsOf rest :=
  List.filterMap_cons_some drafts

theorem usersOf_cons {operation : Operation} {user : Principal} (adds : operation.user? = some user)
    (rest : List Operation) : usersOf (operation :: rest) = user :: usersOf rest :=
  List.filterMap_cons_some adds

/-! ## What a history accounts for -/

/-- All that is in the contents was put there in the course of the history. -/
structure Contents.Accounted (contents : Contents) (history : List Operation) : Prop where
  codes : ∀ record ∈ contents.records, record.code ∈ (draftsOf history).map Draft.code
  lastId : contents.lastId.toInt ≤ (draftsOf history).length
  users : ∀ id user, contents.users id = some user → user ∈ usersOf history
  workloads : ∀ id workload, contents.workloads id workload →
    ∃ active, .setWorkload id workload active ∈ history

namespace Contents.Accounted

variable {before after contents : Contents} {operation : Operation} {answer : Answer}
  {history : List Operation}

theorem empty : Contents.empty.Accounted [] := by
  refine ⟨?_, by decide, ?_, ?_⟩
  · intro record member
    cases member
  · intro id user known
    cases known
  · intro id workload told
    cases told

theorem append (accounted : contents.Accounted history) (later : List Operation) :
    contents.Accounted (history ++ later) := by
  refine ⟨?_, ?_, ?_, ?_⟩
  · intro record member
    rw [draftsOf_append, List.map_append]
    exact List.mem_append_left _ (accounted.codes record member)
  · rw [draftsOf_append, List.length_append]
    have bound := accounted.lastId
    omega
  · intro id user known
    rw [usersOf_append]
    exact List.mem_append_left _ (accounted.users id user known)
  · intro id workload told
    rcases accounted.workloads id workload told with ⟨active, member⟩
    exact ⟨active, List.mem_append_left _ member⟩

theorem enters {draft : Draft} {record : Registration} (accounted : before.Accounted history)
    (drafts : operation.draft? = some draft) (enters : before.Enters after draft record) :
    after.Accounted (history ++ [operation]) := by
  have still := accounted.append [operation]
  have added : draftsOf (history ++ [operation]) = draftsOf history ++ [draft] := by
    rw [draftsOf_append, draftsOf_cons drafts]
    rfl
  rw [enters.rest]
  refine ⟨?_, ?_, still.users, still.workloads⟩
  · intro other member
    rcases List.mem_append.mp member with earlier | last
    · exact still.codes other earlier
    · rw [List.mem_singleton.mp last, enters.code, added, List.map_append]
      exact List.mem_append_right _ (List.mem_singleton_self _)
  · have bound := accounted.lastId
    have next := toInt_of_nextId? enters.next
    change record.id.toInt ≤ _
    rw [added, List.length_append, List.length_singleton]
    omega

/-- One operation puts in what it says, and leaves the rest or takes from it. -/
theorem step (accounted : before.Accounted history)
    (change : Change operation answer before after) : after.Accounted (history ++ [operation]) := by
  have still := accounted.append [operation]
  cases change with
  | kept => exact still
  | registered enters => exact accounted.enters rfl enters
  | inserted enters => exact accounted.enters rfl enters
  | removed none removes =>
      rw [removes.rest]
      refine ⟨?_, still.lastId, still.users, ?_⟩
      · intro record member
        exact still.codes record (List.mem_filter.mp member).1
      · intro other workload told
        exact still.workloads other workload (removes.workloads other workload told)
  | granted none grants =>
      rw [grants.rest]
      exact ⟨still.codes, still.lastId, still.users, still.workloads⟩
  | revoked none revokes =>
      rw [revokes.rest]
      exact ⟨still.codes, still.lastId, still.users, still.workloads⟩
  | marked none marks =>
      rw [marks.rest]
      refine ⟨still.codes, still.lastId, still.users, ?_⟩
      intro other workload told
      rcases marks.workloads other workload told with earlier | ⟨rfl, rfl⟩
      · exact still.workloads other workload earlier
      · exact ⟨_, List.mem_append_right _ (List.mem_singleton_self _)⟩
  | @added _ _ _ user none adds =>
      rw [adds.rest]
      refine ⟨still.codes, still.lastId, ?_, still.workloads⟩
      intro id other known
      change after.users id = some other at known
      by_cases same : id = user.id
      · rw [same, adds.added, Option.some.injEq] at known
        rw [usersOf_append, ← known]
        exact List.mem_append_right _ (List.mem_singleton_self user)
      · exact still.users id other ((adds.other id same).symm.trans known)

end Contents.Accounted

/-- Nothing in the contents stands in the way of the operation on one back end only. -/
structure Contents.Admits (contents : Contents) (operation : Operation) : Prop where
  draft : ∀ draft, operation.draft? = some draft → contents.Takes draft
  user : ∀ user, operation.user? = some user → ¬contents.Clashes user
  workload : ∀ id workload active, operation = .setWorkload id workload active →
    ∀ other, contents.workloads id other → other = workload

/-- What is in the contents came earlier, and a comparable history does not come back to it. -/
theorem Contents.Accounted.admits {contents : Contents} {workload : Int64 → String}
    {history later : List Operation} {operation : Operation}
    (accounted : contents.Accounted history)
    (comparable : Comparable workload (history ++ operation :: later)) :
    contents.Admits operation := by
  constructor
  · intro draft drafts
    have all : draftsOf (history ++ operation :: later) =
        draftsOf history ++ draft :: draftsOf later := by
      rw [draftsOf_append, draftsOf_cons drafts]
    refine ⟨?_, ?_⟩
    · apply comparable.wholeMillis
      rw [all]
      exact List.mem_append_right _ List.mem_cons_self
    · intro fault
      rcases fault with none | ⟨record, member, used⟩
      · have room := comparable.idsLeft
        have bound := accounted.lastId
        have full : contents.lastId = Int64.maxValue := by simpa [nextId?] using none
        rw [all, List.length_append, List.length_cons] at room
        rw [full] at bound
        omega
      · have once := comparable.codesOnce
        rw [all, List.map_append, List.map_cons] at once
        exact (List.nodup_append.mp once).2.2 _ (accounted.codes record member) _ List.mem_cons_self
          used
  · intro user adds clashes
    have all : usersOf (history ++ operation :: later) =
        usersOf history ++ user :: usersOf later := by
      rw [usersOf_append, usersOf_cons adds]
    rcases clashes with ⟨id, other, known, taken⟩
    have earlier := accounted.users id other known
    rcases taken with sameId | sameName
    · have once := comparable.userIdsOnce
      rw [all, List.map_append, List.map_cons] at once
      exact (List.nodup_append.mp once).2.2 _ (List.mem_map_of_mem earlier) _ List.mem_cons_self
        sameId
    · have once := comparable.usernamesOnce
      rw [all, List.map_append, List.map_cons] at once
      exact (List.nodup_append.mp once).2.2 _ (List.mem_map_of_mem earlier) _ List.mem_cons_self
        sameName
  · intro id name active equal other told
    rcases accounted.workloads id other told with ⟨was, member⟩
    rw [comparable.workloads id other was (List.mem_append_left _ member)]
    apply (comparable.workloads id name active _).symm
    rw [equal]
    exact List.mem_append_right _ List.mem_cons_self

/-! ## One operation on both

Stores that hold the like are asked the same, with the same gateway beside them. -/

/-- The same answer, or a conflict of each store in its own words. -/
inductive Answer.Agrees : Answer → Answer → Prop
  | same (answer : Answer) : Agrees answer answer
  | stores {left right : Except StoreError Value} (same : SameOutcome left right) :
      Agrees (.store left) (.store right)

theorem entryAnswer_eq {left right : Except StoreError Registration} (same : SameOutcome left right)
    (name : String) (cluster : Int64) :
    entryAnswer name cluster left = entryAnswer name cluster right := by
  cases same <;> rfl

namespace Contents.Alike

variable {left right : Contents}

theorem isAuthorized_eq (alike : left.Alike right) (user : Principal) {record : Registration}
    (member : record ∈ left.records) :
    isAuthorized user record (left.grants user.id) =
      isAuthorized user record (right.grants user.id) := by
  rw [Bool.eq_iff_iff, isAuthorized_iff, isAuthorized_iff,
    alike.grants user.id record.id (.inl ⟨record, member, rfl⟩)]

theorem visibleTo_eq (alike : left.Alike right) (user : Principal) :
    left.visibleTo user = right.visibleTo user := by
  rw [Contents.visibleTo, Contents.visibleTo, ← alike.records]
  exact List.filter_congr fun record member => alike.isAuthorized_eq user member

theorem hiddenFrom_eq (alike : left.Alike right) (user : Principal) :
    left.hiddenFrom user = right.hiddenFrom user := by
  rw [Contents.hiddenFrom, Contents.hiddenFrom, ← alike.records]
  exact List.filter_congr fun record member => congrArg (!·) (alike.isAuthorized_eq user member)

theorem partitionFor_eq (alike : left.Alike right) (caller : Principal) (user : Int64)
    (part : Partition → List Registration) :
    left.partitionFor caller user part = right.partitionFor caller user part := by
  simp only [Contents.partitionFor, alike.users, alike.visibleTo_eq, alike.hiddenFrom_eq]

end Contents.Alike

section

variable [Readable σ] [Readable τ]

/-- Whoever asks cannot tell the worlds apart. -/
structure World.Alike (left : World σ Clusters) (right : World τ Clusters) : Prop where
  contents : (contents left.store).Alike (contents right.store)
  gateway : left.gateway = right.gateway

structure World.Alongside (left : World σ Clusters) (right : World τ Clusters) : Prop
    extends World.Alike left right where
  leftSound : Sound left.store
  rightSound : Sound right.store

variable [Store σ] [LawfulStore σ] [Store τ] [LawfulStore τ] {left : World σ Clusters}
  {right : World τ Clusters}

theorem World.Alongside.register {caller : Principal} {name : String} {cluster : Int64}
    {stamp : Stamp} (alongside : left.Alongside right)
    (takes : (contents left.store).Takes (draft caller name cluster stamp)) :
    (left.run (register caller name cluster stamp)).1 =
        (right.run (register caller name cluster stamp)).1 ∧
      (left.run (register caller name cluster stamp)).2.Alike
        (right.run (register caller name cluster stamp)).2 := by
  have unchanged := alongside.toAlike
  simp only [run_register, LawfulStore.findByPair alongside.leftSound,
    LawfulStore.findByPair alongside.rightSound, ← alongside.contents.records, ← alongside.gateway]
  cases Name.check name with
  | error fault => exact ⟨rfl, unchanged⟩
  | ok _ =>
      cases (contents left.store).records.find? (·.isFor name cluster) with
      | some record => exact ⟨rfl, unchanged⟩
      | none =>
          rcases provide left.gateway cluster name with ⟨answer, gateway⟩
          cases answer with
          | error error => exact ⟨rfl, unchanged.contents, rfl⟩
          | ok _ =>
              have inserts := alongside.contents.insertOutcome takes
                (LawfulStore.insert alongside.leftSound _)
                (LawfulStore.insert alongside.rightSound _)
              simp only [run_enter]
              exact ⟨entryAnswer_eq inserts.1 name cluster, inserts.2, rfl⟩

theorem World.Alongside.deregister (alongside : left.Alongside right) (caller : Principal)
    (id : Int64) :
    (left.run (deregister caller id)).1 = (right.run (deregister caller id)).1 ∧
      (left.run (deregister caller id)).2.Alike (right.run (deregister caller id)).2 := by
  have unchanged := alongside.toAlike
  have ordered := LawfulStore.ordered alongside.leftSound
  simp only [run_deregister alongside.leftSound, run_deregister alongside.rightSound,
    ← alongside.contents.records]
  cases found : (contents left.store).records.find? (·.id == id) with
  | none => exact ⟨rfl, unchanged⟩
  | some record =>
      have present := (ordered.find?_id id record).mp found
      have matters : (contents left.store).Matters id := .inl ⟨record, present⟩
      simp only [← alongside.contents.active id matters]
      by_cases manages : canManage caller record = true
      · simp only [if_pos manages]
        cases (contents left.store).active id with
        | true => exact ⟨rfl, unchanged⟩
        | false =>
            have deletes := alongside.contents.deleteOutcome ordered
              (LawfulStore.delete alongside.leftSound id)
              (LawfulStore.delete alongside.rightSound id)
            exact ⟨rfl, deletes.2, alongside.gateway⟩
      · simp only [if_neg manages]
        exact ⟨trivial, unchanged⟩

theorem World.Alongside.request (alongside : left.Alongside right) (asked : RegistryRequest)
    (admits : (contents left.store).Admits (.request asked)) :
    (left.run asked.procedure).1 = (right.run asked.procedure).1 ∧
      (left.run asked.procedure).2.Alike (right.run asked.procedure).2 := by
  have alike := alongside.contents
  have leftSound := alongside.leftSound
  have rightSound := alongside.rightSound
  cases asked with
  | register caller name cluster stamp =>
      simp only [RegistryRequest.procedure, World.run_map]
      rcases alongside.register (admits.draft _ rfl) with ⟨same, after⟩
      exact ⟨congrArg _ same, after⟩
  | deregister caller id =>
      simp only [RegistryRequest.procedure, World.run_map]
      rcases alongside.deregister caller id with ⟨same, after⟩
      exact ⟨congrArg _ same, after⟩
  | verifyUnique name cluster =>
      simp only [RegistryRequest.procedure, World.run_map, run_verifyUnique leftSound,
        run_verifyUnique rightSound, alike.records]
      exact ⟨trivial, alongside.toAlike⟩
  | partition user =>
      simp only [RegistryRequest.procedure, World.run_map, run_partition leftSound,
        run_partition rightSound, alike.visibleTo_eq, alike.hiddenFrom_eq]
      exact ⟨trivial, alongside.toAlike⟩
  | available user =>
      simp only [RegistryRequest.procedure, World.run_map, run_available leftSound,
        run_available rightSound, alike.visibleTo_eq]
      exact ⟨trivial, alongside.toAlike⟩
  | pagedList limit user search number size =>
      simp only [RegistryRequest.procedure, World.run_map, run_pagedList leftSound,
        run_pagedList rightSound, alike.visibleTo_eq]
      exact ⟨trivial, alongside.toAlike⟩
  | authorizedFor caller user =>
      simp only [RegistryRequest.procedure, World.run_map, authorizedFor,
        run_partitionFor leftSound, run_partitionFor rightSound, alike.partitionFor_eq]
      exact ⟨trivial, alongside.toAlike⟩
  | unauthorizedFor caller user =>
      simp only [RegistryRequest.procedure, World.run_map, unauthorizedFor,
        run_partitionFor leftSound, run_partitionFor rightSound, alike.partitionFor_eq]
      exact ⟨trivial, alongside.toAlike⟩

theorem World.Alongside.perform (alongside : left.Alongside right) (operation : Operation)
    (leftAdmits : (contents left.store).Admits operation)
    (rightAdmits : (contents right.store).Admits operation) :
    (operation.perform left).1.Agrees (operation.perform right).1 ∧
      (operation.perform left).2.Alike (operation.perform right).2 := by
  have alike := alongside.contents
  have gateway := alongside.gateway
  have leftSound := alongside.leftSound
  have rightSound := alongside.rightSound
  cases operation with
  | request asked =>
      rcases alongside.request asked leftAdmits with ⟨same, after⟩
      change (Answer.registry _).Agrees (Answer.registry (right.run asked.procedure).1) ∧ _
      rw [← same]
      exact ⟨.same _, after⟩
  | insert draft =>
      have inserts := alike.insertOutcome (leftAdmits.draft draft rfl)
        (LawfulStore.insert leftSound draft) (LawfulStore.insert rightSound draft)
      exact ⟨.stores (inserts.1.map _), inserts.2, gateway⟩
  | delete id =>
      have deletes := alike.deleteOutcome (LawfulStore.ordered leftSound)
        (LawfulStore.delete leftSound id) (LawfulStore.delete rightSound id)
      exact ⟨.stores (deletes.1.map _), deletes.2, gateway⟩
  | findByPair name cluster =>
      simp only [Operation.perform, LawfulStore.findByPair leftSound,
        LawfulStore.findByPair rightSound, alike.records]
      exact ⟨.same _, alongside.toAlike⟩
  | findById id =>
      simp only [Operation.perform, LawfulStore.findById leftSound, LawfulStore.findById rightSound,
        alike.records]
      exact ⟨.same _, alongside.toAlike⟩
  | listAll =>
      simp only [Operation.perform, LawfulStore.listAll leftSound, LawfulStore.listAll rightSound,
        alike.records]
      exact ⟨.same _, alongside.toAlike⟩
  | grant user id =>
      have grants := Contents.Alike.updated (fun _ _ => alike.grant)
        (LawfulStore.grant leftSound user id) (LawfulStore.grant rightSound user id)
      exact ⟨.stores (grants.1.map _), grants.2, gateway⟩
  | revoke user id =>
      have revokes := Contents.Alike.updated (fun _ _ => alike.revoke)
        (LawfulStore.revoke leftSound user id) (LawfulStore.revoke rightSound user id)
      exact ⟨.stores (revokes.1.map _), revokes.2, gateway⟩
  | setWorkload id workload active =>
      have leftSingle := leftAdmits.workload id workload active rfl
      have rightSingle := rightAdmits.workload id workload active rfl
      have marks := Contents.Alike.updated
        (fun _ _ leftMarks rightMarks => alike.mark leftMarks rightMarks leftSingle rightSingle)
        (LawfulStore.setWorkload leftSound id workload active)
        (LawfulStore.setWorkload rightSound id workload active)
      exact ⟨.stores (marks.1.map _), marks.2, gateway⟩
  | addUser user =>
      have adds := alike.addUserOutcome (leftAdmits.user user rfl)
        (LawfulStore.addUser leftSound user) (LawfulStore.addUser rightSound user)
      exact ⟨.stores (adds.1.map _), adds.2, gateway⟩
  | seed cluster name =>
      exact ⟨.same _, alike, congrArg (·.seed cluster name) gateway⟩
  | failNextCreate =>
      exact ⟨.same _, alike, congrArg Clusters.failNextCreate gateway⟩

/-! ## Histories on both -/

theorem World.Alongside.after {workload : Int64 → String} {earlier : List Operation}
    {history : List Operation} (alongside : left.Alongside right)
    (leftAccounted : (contents left.store).Accounted earlier)
    (rightAccounted : (contents right.store).Accounted earlier)
    (comparable : Comparable workload (earlier ++ history)) :
    List.Forall₂ Answer.Agrees (left.answers history) (right.answers history) ∧
      (left.after history).Alongside (right.after history) := by
  induction history generalizing left right earlier with
  | nil => exact ⟨.nil, alongside⟩
  | cons operation rest induction =>
      rcases alongside.perform operation (leftAccounted.admits comparable)
        (rightAccounted.admits comparable) with ⟨agrees, alike⟩
      have leftChange := change_perform alongside.leftSound operation
      have rightChange := change_perform alongside.rightSound operation
      have comparable' : Comparable workload (earlier ++ [operation] ++ rest) := by
        rw [List.append_assoc]
        exact comparable
      have later := induction ⟨alike, leftChange.1, rightChange.1⟩ (leftAccounted.step leftChange.2)
        (rightAccounted.step rightChange.2) comparable'
      exact ⟨.cons agrees later.1, later.2⟩

end

/-- A comparable history goes the same way on both back ends: every answer is the same, but for
the wording of a conflict that a store reports itself, and in the end the same records are listed
and the same creates have been asked of the clusters. -/
theorem back_ends_agree (clusters : Clusters) (workload : Int64 → String) (history : List Operation)
    (comparable : Comparable workload history) :
    let memory := BackEnd.memory.start clusters
    let database := BackEnd.database.start clusters
    List.Forall₂ Answer.Agrees (memory.answers history) (database.answers history) ∧
    Store.listAll (memory.after history).store = Store.listAll (database.after history).store ∧
    (memory.after history).gateway = (database.after history).gateway := by
  intro memory database
  have memoryContents : contents memory.store = Contents.empty := BackEnd.contents_fresh .memory
  have databaseContents : contents database.store = Contents.empty :=
    BackEnd.contents_fresh .database
  have alike : (contents memory.store).Alike (contents database.store) := by
    rw [memoryContents, databaseContents]
    exact .refl _
  have alongside : memory.Alongside database :=
    ⟨⟨alike, rfl⟩, BackEnd.sound_fresh .memory, BackEnd.sound_fresh .database⟩
  have memoryAccounted : (contents memory.store).Accounted [] := memoryContents ▸ .empty
  have databaseAccounted : (contents database.store).Accounted [] := databaseContents ▸ .empty
  rcases alongside.after memoryAccounted databaseAccounted comparable with ⟨agree, after⟩
  refine ⟨agree, ?_, after.gateway⟩
  rw [LawfulStore.listAll after.leftSound, LawfulStore.listAll after.rightSound,
    after.contents.records]

/-- A grant is dropped with the record by one back end and kept by the other, and the name comes
back. -/
def reused : List Operation := [
  .addUser ⟨1, "alice", .general⟩,
  .addUser ⟨2, "bob", .general⟩,
  .request (.register ⟨1, "alice", .general⟩ "team-x" 100 ⟨1, .epoch⟩),
  .grant 2 1,
  .setWorkload 1 "etl" true,
  .request (.deregister ⟨1, "alice", .general⟩ 1),
  .setWorkload 1 "etl" false,
  .request (.deregister ⟨1, "alice", .general⟩ 1),
  .insert ⟨2, "team-x", 100, 1, .epoch⟩,
  .insert ⟨3, "team-x", 100, 2, .epoch⟩,
  .request (.partition ⟨2, "bob", .general⟩)]

theorem back_ends_agree_on_reused :
    let memory := BackEnd.memory.start (.withCodes [100])
    let database := BackEnd.database.start (.withCodes [100])
    List.Forall₂ Answer.Agrees (memory.answers reused) (database.answers reused) ∧
    Store.listAll (memory.after reused).store = Store.listAll (database.after reused).store ∧
    (memory.after reused).gateway = (database.after reused).gateway := by
  have workloads : ∀ id name active, .setWorkload id name active ∈ reused → name = "etl" := by
    intro id name active member
    simp only [reused, List.mem_cons, Operation.setWorkload.injEq, reduceCtorEq, false_or,
      List.not_mem_nil, or_false] at member
    rcases member with ⟨_, name, _⟩ | ⟨_, name, _⟩ <;> exact name
  have comparable : Comparable (fun _ => "etl") reused :=
    ⟨by decide +kernel, by decide +kernel, by decide +kernel, by decide +kernel, by decide +kernel,
      workloads⟩
  exact back_ends_agree (.withCodes [100]) (fun _ => "etl") reused comparable

end Tenancy
