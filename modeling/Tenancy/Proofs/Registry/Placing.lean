import Tenancy.Proofs.Store.Lawful
import Tenancy.Registry.Placing

/-! What registering, verifying and de-registering come to over a lawful store. The gateway may be
any gateway: only the registering asks it anything. -/

namespace Tenancy.Registry

open Readable

/-- What a registration asks of the gateway: to create the name unless it is on the cluster. -/
def provide [Gateway γ] (gateway : γ) (cluster : Int64) (name : String) :
    Except GatewayError Unit × γ :=
  match Gateway.isPresent gateway cluster name with
  | (.error error, asked) => (.error error, asked)
  | (.ok true, asked) => (.ok (), asked)
  | (.ok false, asked) => Gateway.create asked cluster name

/-- How the answer of the store to an insert is passed on. -/
def entryAnswer (name : String) (cluster : Int64) :
    Except StoreError Registration → Except RegistryError Registration
  | .ok registration => .ok registration
  | .error (.conflict _) => .error (alreadyRegistered name cluster)
  | .error error => .error error.toRegistry

section

variable [Store σ] [Gateway γ] (world : World σ γ)

theorem run_enter (caller : Principal) (name : String) (cluster : Int64) (stamp : Stamp) :
    world.run (enter caller name cluster stamp) =
      let inserted := Store.insert world.store (draft caller name cluster stamp)
      (entryAnswer name cluster inserted.1, { world with store := inserted.2 }) := by
  simp only [World.run, enter, Procedure.run, World.answering]
  cases (Store.insert world.store (draft caller name cluster stamp)).1 with
  | ok registration => rfl
  | error error => cases error <;> rfl

/-- The insert comes last, and only once the name is known to be on the cluster. -/
theorem run_register (caller : Principal) (name : String) (cluster : Int64) (stamp : Stamp) :
    world.run (register caller name cluster stamp) =
      match Name.check name with
      | .error fault => (.error fault.toRegistry, world)
      | .ok () =>
          match Store.findByPair world.store name cluster with
          | .error error => (.error error.toRegistry, world)
          | .ok (some _) => (.error (alreadyRegistered name cluster), world)
          | .ok none =>
              match provide world.gateway cluster name with
              | (.error error, gateway) => (.error error.toRegistry, { world with gateway })
              | (.ok (), gateway) =>
                  World.run { world with gateway } (enter caller name cluster stamp) := by
  unfold register provide
  cases Name.check name with
  | error fault => rfl
  | ok _ =>
      simp only [World.run, Procedure.run, World.answering]
      cases Store.findByPair world.store name cluster with
      | error error => rfl
      | ok found =>
          cases found with
          | some registration => rfl
          | none =>
              simp only [Procedure.run, World.answering]
              rcases Gateway.isPresent world.gateway cluster name with ⟨answer, asked⟩
              rcases answer with error | present
              · rfl
              · cases present with
                | true => rfl
                | false =>
                    simp only [Procedure.run, World.answering]
                    rcases Gateway.create asked cluster name with ⟨answer, created⟩
                    cases answer <;> rfl

/-- A registration succeeds only with the name on the cluster, and through its insert. -/
theorem calls_of_registered {caller : Principal} {name : String} {cluster : Int64}
    {stamp : Stamp} {record : Registration}
    (ok : (world.run (register caller name cluster stamp)).1 = .ok record) :
    let after := (world.run (register caller name cluster stamp)).2
    provide world.gateway cluster name = (.ok (), after.gateway) ∧
      Store.insert world.store (draft caller name cluster stamp) = (.ok record, after.store) := by
  rw [run_register] at ok ⊢
  cases checked : Name.check name with
  | error fault => simp [checked] at ok
  | ok _ =>
      cases found : Store.findByPair world.store name cluster with
      | error error => simp [checked, found] at ok
      | ok registered =>
          cases registered with
          | some registration => simp [checked, found] at ok
          | none =>
              rcases provided : provide world.gateway cluster name with ⟨answer, gateway⟩
              cases answer with
              | error error => simp [checked, found, provided] at ok
              | ok _ =>
                  simp only [checked, found, provided, run_enter, true_and] at ok ⊢
                  generalize Store.insert world.store (draft caller name cluster stamp) = result
                    at ok ⊢
                  rcases result with ⟨error | entered, next⟩
                  · cases error <;> cases ok
                  · cases ok
                    rfl

end

section

variable [Store σ] [Readable σ] [LawfulStore σ] [Gateway γ] {world : World σ γ}

theorem run_verifyUnique (sound : Sound world.store) (name : String) (cluster : Int64) :
    world.run (verifyUnique name cluster) =
      (match Name.check name with
        | .error fault => .error fault.toRegistry
        | .ok () => .ok ((contents world.store).records.find? (·.isFor name cluster)).isNone,
        world) := by
  unfold verifyUnique
  cases Name.check name with
  | error fault => rfl
  | ok _ =>
      simp only [World.run, Procedure.run, World.answering, LawfulStore.findByPair sound]
      rfl

theorem verifyUnique_of_registered (sound : Sound world.store) {name : String} {cluster : Int64}
    (valid : Name.check name = .ok ())
    (registered : (contents world.store).Registered name cluster) :
    (world.run (verifyUnique name cluster)).1 = .ok false := by
  rw [run_verifyUnique sound, valid]
  rcases registered with ⟨record, member, isFor⟩
  cases found : (contents world.store).records.find? (·.isFor name cluster) with
  | none => exact absurd isFor (List.find?_eq_none.mp found record member)
  | some other => rfl

theorem verifyUnique_of_free (sound : Sound world.store) {name : String} {cluster : Int64}
    (valid : Name.check name = .ok ())
    (free : ¬(contents world.store).Registered name cluster) :
    (world.run (verifyUnique name cluster)).1 = .ok true := by
  have missing : (contents world.store).records.find? (·.isFor name cluster) = none := by
    rw [List.find?_eq_none]
    exact fun record member isFor => free ⟨record, member, isFor⟩
  rw [run_verifyUnique sound, valid, missing]
  rfl

/-- A registration that is found is there to be deleted, so the deletion cannot miss it. -/
theorem run_deregister (sound : Sound world.store) (caller : Principal) (id : Int64) :
    world.run (deregister caller id) =
      match (contents world.store).records.find? (·.id == id) with
      | none => (.error (StoreError.notFound id).toRegistry, world)
      | some registration =>
          if canManage caller registration then
            if (contents world.store).active id then (.error (stillInUse registration), world)
            else (.ok (), { world with store := (Store.delete world.store id).2 })
          else (.error (mayNotDelete caller registration), world) := by
  simp only [World.run, deregister, Procedure.run, World.answering, LawfulStore.findById sound]
  cases found : (contents world.store).records.find? (·.id == id) with
  | none => rfl
  | some registration =>
      rcases ((LawfulStore.ordered sound).find?_id id registration).mp found with ⟨member, rfl⟩
      by_cases manages : canManage caller registration = true
      · simp only [if_pos manages, Procedure.run, World.answering, LawfulStore.hasActive sound]
        cases (contents world.store).active registration.id with
        | true => rfl
        | false =>
            rcases delete_of_mem sound member with ⟨next, deleted, _⟩
            simp only [Procedure.run, World.answering, deleted]
            rfl
      · simp only [if_neg manages]
        rfl

/-- A registration fails and leaves the store as it was, or enters one record. -/
theorem register_cases (sound : Sound world.store) (caller : Principal) (name : String)
    (cluster : Int64) (stamp : Stamp) :
    (∃ error gateway,
      world.run (register caller name cluster stamp) = (.error error, { world with gateway })) ∨
    (∃ record next gateway,
      world.run (register caller name cluster stamp) = (.ok record, ⟨next, gateway⟩) ∧
      Sound next ∧
      (contents world.store).Enters (contents next) (draft caller name cluster stamp) record) := by
  rw [run_register]
  cases Name.check name with
  | error fault => exact .inl ⟨_, _, rfl⟩
  | ok _ =>
      simp only [LawfulStore.findByPair sound]
      cases (contents world.store).records.find? (·.isFor name cluster) with
      | some registration => exact .inl ⟨_, _, rfl⟩
      | none =>
          rcases provide world.gateway cluster name with ⟨answer, gateway⟩
          cases answer with
          | error error => exact .inl ⟨_, _, rfl⟩
          | ok _ =>
              have outcome := LawfulStore.insert sound (draft caller name cluster stamp)
              simp only [run_enter]
              generalize Store.insert world.store (draft caller name cluster stamp) = result
                at outcome
              cases outcome with
              | conflict | failed => exact .inl ⟨_, _, rfl⟩
              | entered record next nextSound enters =>
                  exact .inr ⟨record, next, gateway, rfl, nextSound, enters⟩

/-- A de-registration fails and leaves the world as it was, or removes one record. -/
theorem deregister_cases (sound : Sound world.store) (caller : Principal) (id : Int64) :
    (∃ error, world.run (deregister caller id) = (.error error, world)) ∨
    (∃ next, world.run (deregister caller id) = (.ok (), { world with store := next }) ∧
      Sound next ∧ (contents world.store).Removes (contents next) id) := by
  rw [run_deregister sound]
  cases found : (contents world.store).records.find? (·.id == id) with
  | none => exact .inl ⟨_, rfl⟩
  | some registration =>
      rcases ((LawfulStore.ordered sound).find?_id id registration).mp found with ⟨member, rfl⟩
      by_cases manages : canManage caller registration = true
      · simp only [if_pos manages]
        by_cases inUse : (contents world.store).active registration.id = true
        · exact .inl ⟨_, by rw [if_pos inUse]⟩
        · rcases delete_of_mem sound member with ⟨next, deleted, nextSound, removes⟩
          rw [if_neg inUse, deleted]
          exact .inr ⟨next, rfl, nextSound, removes⟩
      · simp only [if_neg manages]
        exact .inl ⟨_, rfl⟩

end

end Tenancy.Registry
