import Tenancy.Proofs.History.Operation
import Tenancy.Proofs.Registry.Listing
import Tenancy.Proofs.Registry.Placing

/-! What one operation can do to the store. Every fact about whole histories goes by these
cases. -/

namespace Tenancy

open Readable Registry

/-- The contents before and after an operation, with the answer it gave. An id is issued exactly
when a record is entered. -/
inductive Change : Operation → Answer → Contents → Contents → Prop
  | kept {operation : Operation} {answer : Answer} {contents : Contents}
      (none : answer.issued? = none) : Change operation answer contents contents
  | registered {caller : Principal} {name : String} {cluster : Int64} {stamp : Stamp}
      {record : Registration} {before after : Contents}
      (enters : before.Enters after (draft caller name cluster stamp) record) :
      Change (.request (.register caller name cluster stamp)) (.registry (.ok (.record record)))
        before after
  | inserted {draft : Draft} {record : Registration} {before after : Contents}
      (enters : before.Enters after draft record) :
      Change (.insert draft) (.store (.ok (.record record))) before after
  | removed {operation : Operation} {answer : Answer} {before after : Contents} {id : Int64}
      (none : answer.issued? = none) (removes : before.Removes after id)
      (deleted : operation.deleted? answer = some id) : Change operation answer before after
  | granted {answer : Answer} {before after : Contents} {user id : Int64}
      (none : answer.issued? = none) (grants : before.Grants after user id) :
      Change (.grant user id) answer before after
  | revoked {answer : Answer} {before after : Contents} {user id : Int64}
      (none : answer.issued? = none) (revokes : before.Revokes after user id) :
      Change (.revoke user id) answer before after
  | marked {answer : Answer} {before after : Contents} {id : Int64} {workload : String}
      {active : Bool} (none : answer.issued? = none)
      (marks : before.Marks after id workload active) :
      Change (.setWorkload id workload active) answer before after
  | added {answer : Answer} {before after : Contents} {user : Principal}
      (none : answer.issued? = none) (adds : before.AddsUser after user) :
      Change (.addUser user) answer before after

/-- An id is issued with the record that is entered under it; otherwise the last id stays. -/
theorem Change.lastId_cases {operation : Operation} {answer : Answer} {before after : Contents}
    (change : Change operation answer before after) :
    (answer.issued? = none ∧ after.lastId = before.lastId) ∨
      ∃ draft record, answer.issued? = some record.id ∧ before.Enters after draft record := by
  cases change with
  | kept none => exact .inl ⟨none, rfl⟩
  | registered enters => exact .inr ⟨_, _, rfl, enters⟩
  | inserted enters => exact .inr ⟨_, _, rfl, enters⟩
  | removed none removes => exact .inl ⟨none, by rw [removes.rest]⟩
  | granted none grants => exact .inl ⟨none, by rw [grants.rest]⟩
  | revoked none revokes => exact .inl ⟨none, by rw [revokes.rest]⟩
  | marked none marks => exact .inl ⟨none, by rw [marks.rest]⟩
  | added none adds => exact .inl ⟨none, by rw [adds.rest]⟩

/-- The records stay, or one is entered, by a registration or directly, or one is taken out. -/
theorem Change.records_cases {operation : Operation} {answer : Answer} {before after : Contents}
    (change : Change operation answer before after) :
    after.records = before.records ∨
    (∃ caller name cluster stamp record,
      operation = .request (.register caller name cluster stamp) ∧
      answer = .registry (.ok (.record record)) ∧
      before.Enters after (draft caller name cluster stamp) record) ∨
    (∃ draft record, operation = .insert draft ∧ before.Enters after draft record) ∨
    ∃ id, operation.deleted? answer = some id ∧
      after.records = before.records.filter (·.id != id) := by
  cases change with
  | kept => exact .inl rfl
  | registered enters => exact .inr (.inl ⟨_, _, _, _, _, rfl, rfl, enters⟩)
  | inserted enters => exact .inr (.inr (.inl ⟨_, _, rfl, enters⟩))
  | removed none removes deleted =>
      exact .inr (.inr (.inr ⟨_, deleted, by rw [removes.rest]⟩))
  | granted none grants => exact .inl (by rw [grants.rest])
  | revoked none revokes => exact .inl (by rw [revokes.rest])
  | marked none marks => exact .inl (by rw [marks.rest])
  | added none adds => exact .inl (by rw [adds.rest])

variable [Store σ] [Readable σ] [LawfulStore σ] {world : World σ Clusters}

/-- Only an answer with a record issues an id. -/
theorem issued?_registry_map {wrap : α → Value}
    (other : ∀ value record, wrap value ≠ .record record) (outcome : Except RegistryError α) :
    (Answer.registry (outcome.map wrap)).issued? = none := by
  cases outcome with
  | error error => rfl
  | ok value =>
      change (Answer.registry (.ok (wrap value))).issued? = none
      cases wrapped : wrap value with
      | record record => exact absurd wrapped (other value record)
      | unit | flag | found | records | split | page => rfl

/-- All requests but two only read the store. -/
theorem request_cases (sound : Sound world.store) (asked : RegistryRequest) :
    (∃ caller name cluster stamp, asked = .register caller name cluster stamp) ∨
    (∃ caller id, asked = .deregister caller id) ∨
    ((world.run asked.procedure).2 = world ∧
      (Answer.registry (world.run asked.procedure).1).issued? = none) := by
  cases asked with
  | register caller name cluster stamp => exact .inl ⟨caller, name, cluster, stamp, rfl⟩
  | deregister caller id => exact .inr (.inl ⟨caller, id, rfl⟩)
  | verifyUnique name cluster =>
      simp only [RegistryRequest.procedure, World.run_map, run_verifyUnique sound]
      exact .inr (.inr ⟨trivial, issued?_registry_map (fun _ _ equal => by cases equal) _⟩)
  | partition user =>
      simp only [RegistryRequest.procedure, World.run_map, run_partition sound]
      exact .inr (.inr ⟨trivial, rfl⟩)
  | available user =>
      simp only [RegistryRequest.procedure, World.run_map, run_available sound]
      exact .inr (.inr ⟨trivial, rfl⟩)
  | pagedList limit user search number size =>
      simp only [RegistryRequest.procedure, World.run_map, run_pagedList sound]
      exact .inr (.inr ⟨trivial, issued?_registry_map (fun _ _ equal => by cases equal) _⟩)
  | authorizedFor caller user =>
      simp only [RegistryRequest.procedure, World.run_map, authorizedFor, run_partitionFor sound]
      exact .inr (.inr ⟨trivial, issued?_registry_map (fun _ _ equal => by cases equal) _⟩)
  | unauthorizedFor caller user =>
      simp only [RegistryRequest.procedure, World.run_map, unauthorizedFor, run_partitionFor sound]
      exact .inr (.inr ⟨trivial, issued?_registry_map (fun _ _ equal => by cases equal) _⟩)

theorem change_request (sound : Sound world.store) (asked : RegistryRequest) :
    Sound (world.run asked.procedure).2.store ∧
      Change (.request asked) (.registry (world.run asked.procedure).1)
        (contents world.store) (contents (world.run asked.procedure).2.store) := by
  rcases request_cases sound asked with
    ⟨caller, name, cluster, stamp, rfl⟩ | ⟨caller, id, rfl⟩ | ⟨unchanged, none⟩
  · simp only [RegistryRequest.procedure, World.run_map]
    rcases register_cases sound caller name cluster stamp with
      ⟨error, gateway, ran⟩ | ⟨record, next, gateway, ran, nextSound, enters⟩
    · rw [ran]
      exact ⟨sound, .kept rfl⟩
    · rw [ran]
      exact ⟨nextSound, .registered enters⟩
  · simp only [RegistryRequest.procedure, World.run_map]
    rcases deregister_cases sound caller id with ⟨error, ran⟩ | ⟨next, ran, nextSound, removes⟩
    · rw [ran]
      exact ⟨sound, .kept rfl⟩
    · rw [ran]
      exact ⟨nextSound, .removed rfl removes rfl⟩
  · rw [unchanged]
    exact ⟨sound, .kept none⟩

theorem change_perform (sound : Sound world.store) (operation : Operation) :
    Sound (operation.perform world).2.store ∧
      Change operation (operation.perform world).1
        (contents world.store) (contents (operation.perform world).2.store) := by
  cases operation with
  | request asked => exact change_request sound asked
  | insert draft =>
      have outcome := LawfulStore.insert sound draft
      simp only [Operation.perform]
      generalize Store.insert world.store draft = result at outcome
      cases outcome with
      | conflict | failed => exact ⟨sound, .kept rfl⟩
      | entered record next nextSound enters => exact ⟨nextSound, .inserted enters⟩
  | delete id =>
      have outcome := LawfulStore.delete sound id
      simp only [Operation.perform]
      generalize Store.delete world.store id = result at outcome
      cases outcome with
      | missing => exact ⟨sound, .kept rfl⟩
      | removed next nextSound removes => exact ⟨nextSound, .removed rfl removes rfl⟩
  | findByPair name cluster =>
      simp only [Operation.perform, LawfulStore.findByPair sound]
      exact ⟨sound, .kept rfl⟩
  | findById id =>
      simp only [Operation.perform, LawfulStore.findById sound]
      exact ⟨sound, .kept rfl⟩
  | listAll =>
      simp only [Operation.perform, LawfulStore.listAll sound]
      exact ⟨sound, .kept rfl⟩
  | grant user id =>
      have outcome := LawfulStore.grant sound user id
      simp only [Operation.perform]
      generalize Store.grant world.store user id = result at outcome
      cases outcome with
      | mk next nextSound grants => exact ⟨nextSound, .granted rfl grants⟩
  | revoke user id =>
      have outcome := LawfulStore.revoke sound user id
      simp only [Operation.perform]
      generalize Store.revoke world.store user id = result at outcome
      cases outcome with
      | mk next nextSound revokes => exact ⟨nextSound, .revoked rfl revokes⟩
  | setWorkload id workload active =>
      have outcome := LawfulStore.setWorkload sound id workload active
      simp only [Operation.perform]
      generalize Store.setWorkload world.store id workload active = result at outcome
      cases outcome with
      | mk next nextSound marks => exact ⟨nextSound, .marked rfl marks⟩
  | addUser user =>
      have outcome := LawfulStore.addUser sound user
      simp only [Operation.perform]
      generalize Store.addUser world.store user = result at outcome
      cases outcome with
      | refused => exact ⟨sound, .kept rfl⟩
      | added next nextSound adds => exact ⟨nextSound, .added rfl adds⟩
  | seed | failNextCreate => exact ⟨sound, .kept rfl⟩

/-! ## Histories -/

theorem World.sound_after (sound : Sound world.store) (history : List Operation) :
    Sound (world.after history).store := by
  induction history generalizing world with
  | nil => exact sound
  | cons operation rest induction => exact induction (change_perform sound operation).1

theorem BackEnd.sound_after (backEnd : BackEnd) (clusters : Clusters) (history : List Operation) :
    Sound ((backEnd.start clusters).after history).store :=
  World.sound_after backEnd.sound_fresh history

end Tenancy
