import Tenancy.Procedure

/-! The collaborators behind the calls: a store of registrations with the users, grants and workload
marks beside them, and a gateway to the clusters. -/

namespace Tenancy

class Store (σ : Type) where
  findByPair : σ → String → Int64 → Except StoreError (Option Registration)
  findById : σ → Int64 → Except StoreError (Option Registration)
  listAll : σ → Except StoreError (List Registration)
  insert : σ → Draft → Except StoreError Registration × σ
  delete : σ → Int64 → Except StoreError Unit × σ
  /-- The ids a user holds a grant for. -/
  grantsOf : σ → Int64 → Except StoreError (List Int64)
  grant : σ → (user id : Int64) → Except StoreError Unit × σ
  revoke : σ → (user id : Int64) → Except StoreError Unit × σ
  findUser : σ → Int64 → Except StoreError (Option Principal)
  addUser : σ → Principal → Except StoreError Unit × σ
  /-- Whether an active workload keeps the namespace in use. -/
  hasActive : σ → Int64 → Except StoreError Bool
  setWorkload : σ → (id : Int64) → (workload : String) → (active : Bool) → Except StoreError Unit × σ

class Gateway (γ : Type) where
  isPresent : γ → (cluster : Int64) → (name : String) → Except GatewayError Bool × γ
  create : γ → (cluster : Int64) → (name : String) → Except GatewayError Unit × γ

structure World (σ γ : Type) where
  store : σ
  gateway : γ

namespace World

def answering [Store σ] [Gateway γ] : Answering (World σ γ)
  | .findByPair name cluster, world => (Store.findByPair world.store name cluster, world)
  | .findById id, world => (Store.findById world.store id, world)
  | .listAll, world => (Store.listAll world.store, world)
  | .insert draft, world =>
      let (answer, store) := Store.insert world.store draft
      (answer, { world with store })
  | .delete id, world =>
      let (answer, store) := Store.delete world.store id
      (answer, { world with store })
  | .grantsOf user, world => (Store.grantsOf world.store user, world)
  | .findUser id, world => (Store.findUser world.store id, world)
  | .hasActive id, world => (Store.hasActive world.store id, world)
  | .isPresent cluster name, world =>
      let (answer, gateway) := Gateway.isPresent world.gateway cluster name
      (answer, { world with gateway })
  | .create cluster name, world =>
      let (answer, gateway) := Gateway.create world.gateway cluster name
      (answer, { world with gateway })

def run [Store σ] [Gateway γ] (world : World σ γ) (procedure : Procedure α) : α × World σ γ :=
  procedure.run answering world

end World

end Tenancy
