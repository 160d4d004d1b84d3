import Tenancy.Proofs.Store.Contents
import Tenancy.Proofs.Transcript

/-! The laws of a store: what it answers is read off its contents, and each operation that changes
it makes one change to the contents or leaves the store as it was. -/

namespace Tenancy

/-- How the contents of a store are read, and the states it can be in. -/
class Readable (σ : Type) where
  contents : σ → Contents
  Sound : σ → Prop

open Readable

/-! ## What the operations come to -/

section

variable [Readable σ] (store : σ)

inductive InsertOutcome (draft : Draft) : Except StoreError Registration × σ → Prop
  | conflict (text : String) (taken : (contents store).Registered draft.name draft.cluster) :
      InsertOutcome draft (.error (.conflict text), store)
  | failed (text : String) (free : ¬(contents store).Registered draft.name draft.cluster)
      (fault : (contents store).Faults draft) :
      InsertOutcome draft (.error (.backend text), store)
  | entered (record : Registration) (next : σ) (sound : Sound next)
      (enters : (contents store).Enters (contents next) draft record) :
      InsertOutcome draft (.ok record, next)

inductive DeleteOutcome (id : Int64) : Except StoreError Unit × σ → Prop
  | missing (absent : ∀ record ∈ (contents store).records, record.id ≠ id) :
      DeleteOutcome id (.error (.notFound id), store)
  | removed (next : σ) (sound : Sound next)
      (removes : (contents store).Removes (contents next) id) :
      DeleteOutcome id (.ok (), next)

/-- A user may be refused, for an id or a name that is taken. -/
inductive AddUserOutcome (user : Principal) : Except StoreError Unit × σ → Prop
  | refused (error : StoreError) (clashes : (contents store).Clashes user) :
      AddUserOutcome user (.error error, store)
  | added (next : σ) (sound : Sound next)
      (adds : (contents store).AddsUser (contents next) user) :
      AddUserOutcome user (.ok (), next)

/-- An operation that always succeeds and makes a change of one kind. -/
inductive Updated (Change : Contents → Contents → Prop) : Except StoreError Unit × σ → Prop
  | mk (next : σ) (sound : Sound next) (change : Change (contents store) (contents next)) :
      Updated Change (.ok (), next)

variable {store}

theorem InsertOutcome.sound {draft : Draft} {result : Except StoreError Registration × σ}
    (outcome : InsertOutcome store draft result) (sound : Sound store) : Sound result.2 := by
  cases outcome with
  | conflict | failed => exact sound
  | entered record next nextSound => exact nextSound

theorem DeleteOutcome.sound {id : Int64} {result : Except StoreError Unit × σ}
    (outcome : DeleteOutcome store id result) (sound : Sound store) : Sound result.2 := by
  cases outcome with
  | missing => exact sound
  | removed next nextSound => exact nextSound

theorem AddUserOutcome.sound {user : Principal} {result : Except StoreError Unit × σ}
    (outcome : AddUserOutcome store user result) (sound : Sound store) : Sound result.2 := by
  cases outcome with
  | refused => exact sound
  | added next nextSound => exact nextSound

theorem Updated.sound {Change : Contents → Contents → Prop} {result : Except StoreError Unit × σ}
    (outcome : Updated store Change result) : Sound result.2 := by
  cases outcome with
  | mk next nextSound => exact nextSound

end

/-! ## The laws -/

class LawfulStore (σ : Type) [Store σ] [Readable σ] : Prop where
  ordered {store : σ} : Sound store → (contents store).Ordered
  listAll {store : σ} : Sound store → Store.listAll store = .ok (contents store).records
  findById {store : σ} : Sound store → ∀ id,
    Store.findById store id = .ok ((contents store).records.find? (·.id == id))
  findByPair {store : σ} : Sound store → ∀ name cluster,
    Store.findByPair store name cluster =
      .ok ((contents store).records.find? (·.isFor name cluster))
  findUser {store : σ} : Sound store → ∀ id,
    Store.findUser store id = .ok ((contents store).users id)
  grantsOf {store : σ} : Sound store → ∀ user,
    Store.grantsOf store user = .ok ((contents store).grants user)
  hasActive {store : σ} : Sound store → ∀ id,
    Store.hasActive store id = .ok ((contents store).active id)
  insert {store : σ} : Sound store → ∀ draft,
    InsertOutcome store draft (Store.insert store draft)
  delete {store : σ} : Sound store → ∀ id, DeleteOutcome store id (Store.delete store id)
  grant {store : σ} : Sound store → ∀ user id,
    Updated store (fun before after => before.Grants after user id) (Store.grant store user id)
  revoke {store : σ} : Sound store → ∀ user id,
    Updated store (fun before after => before.Revokes after user id) (Store.revoke store user id)
  setWorkload {store : σ} : Sound store → ∀ id workload active,
    Updated store (fun before after => before.Marks after id workload active)
      (Store.setWorkload store id workload active)
  addUser {store : σ} : Sound store → ∀ user,
    AddUserOutcome store user (Store.addUser store user)

theorem findByPair_of_free [Store σ] [Readable σ] [LawfulStore σ] {store : σ} {name : String}
    {cluster : Int64} (sound : Sound store) (free : ¬(contents store).Registered name cluster) :
    Store.findByPair store name cluster = .ok none := by
  rw [LawfulStore.findByPair sound]
  refine congrArg _ (List.find?_eq_none.mpr ?_)
  intro record member registered
  exact free ⟨record, member, registered⟩

/-- A record that is there is deleted without fail. -/
theorem delete_of_mem [Store σ] [Readable σ] [LawfulStore σ] {store : σ} {record : Registration}
    (sound : Sound store) (member : record ∈ (contents store).records) :
    ∃ next, Store.delete store record.id = (.ok (), next) ∧ Sound next ∧
      (contents store).Removes (contents next) record.id := by
  have outcome := LawfulStore.delete sound record.id
  generalize Store.delete store record.id = result at outcome
  cases outcome with
  | missing absent => exact absurd rfl (absent record member)
  | removed next nextSound removes => exact ⟨next, rfl, nextSound, removes⟩

/-- The store has no fault to report when the draft is inserted, though the name may be taken. -/
def Accepts [Store σ] (store : σ) (draft : Draft) : Prop :=
  ∀ text, (Store.insert store draft).1 ≠ .error (.backend text)

theorem accepts_of_faultless [Store σ] [Readable σ] [LawfulStore σ] {store : σ} {draft : Draft}
    (sound : Sound store) (faultless : ¬(contents store).Faults draft) : Accepts store draft := by
  intro text failed
  have outcome := LawfulStore.insert sound draft
  generalize Store.insert store draft = result at outcome failed
  cases outcome with
  | conflict | entered => cases failed
  | failed text free fault => exact faultless fault

/-! ## Calls

A call to the collaborators leaves the store sound, whichever gateway stands beside it, and so does
a run. -/

theorem World.sound_answering [Store σ] [Readable σ] [LawfulStore σ] [Gateway γ]
    {world : World σ γ} (sound : Sound world.store) (call : Call) :
    Sound (World.answering call world).2.store := by
  cases call with
  | insert draft => exact (LawfulStore.insert sound draft).sound sound
  | delete id => exact (LawfulStore.delete sound id).sound sound
  | findByPair | findById | listAll | grantsOf | findUser | hasActive | isPresent | create =>
      exact sound

theorem World.sound_run [Store σ] [Readable σ] [LawfulStore σ] [Gateway γ] {world : World σ γ}
    (sound : Sound world.store) (procedure : Procedure α) :
    Sound (world.run procedure).2.store := by
  have kept (call : Call) (after : World σ γ) (soundAfter : Sound after.store) :
      Sound (answering call after).2.store :=
    sound_answering soundAfter call
  exact procedure.run_invariant kept sound

end Tenancy
