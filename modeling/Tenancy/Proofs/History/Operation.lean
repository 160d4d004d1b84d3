import Tenancy.Database.Migration
import Tenancy.Gateway.Clusters
import Tenancy.Proofs.Store.Database
import Tenancy.Proofs.Store.Memory
import Tenancy.Registry.Listing
import Tenancy.Registry.Placing

/-! Histories of a registry: what can be asked of it and of the store and clusters behind it, and
the answers given and the world left when a list of operations is performed in order. -/

namespace Tenancy

/-! ## Requests and operations -/

inductive Value where
  | unit
  | flag (value : Bool)
  | record (record : Registration)
  | found (found : Option Registration)
  | records (records : List Registration)
  | split (partition : Registry.Partition)
  | page (page : Page Registration)
  deriving DecidableEq

/-- A request to the registry. The stamp of a registration stands for the clock and the random
bits. -/
inductive RegistryRequest where
  | register (caller : Principal) (name : String) (cluster : Int64) (stamp : Stamp)
  | verifyUnique (name : String) (cluster : Int64)
  | deregister (caller : Principal) (id : Int64)
  | partition (user : Principal)
  | available (user : Principal)
  | pagedList (limit : UInt32) (user : Principal) (search : Option String) (number size : UInt32)
  | authorizedFor (caller : Principal) (user : Int64)
  | unauthorizedFor (caller : Principal) (user : Int64)

def RegistryRequest.procedure : RegistryRequest → Attempt Value
  | register caller name cluster stamp =>
      (Registry.register caller name cluster stamp).map (Except.map .record)
  | verifyUnique name cluster => (Registry.verifyUnique name cluster).map (Except.map .flag)
  | deregister caller id => (Registry.deregister caller id).map (Except.map fun _ => .unit)
  | partition user => (Registry.partition user).map (Except.map .split)
  | available user => (Registry.available user).map (Except.map .records)
  | pagedList limit user search number size =>
      (Registry.pagedList limit user search number size).map (Except.map .page)
  | authorizedFor caller user => (Registry.authorizedFor caller user).map (Except.map .records)
  | unauthorizedFor caller user => (Registry.unauthorizedFor caller user).map (Except.map .records)

/-- Beside the requests, the store and the clusters can be acted on directly. -/
inductive Operation where
  | request (asked : RegistryRequest)
  | insert (draft : Draft)
  | delete (id : Int64)
  | findByPair (name : String) (cluster : Int64)
  | findById (id : Int64)
  | listAll
  | grant (user id : Int64)
  | revoke (user id : Int64)
  | setWorkload (id : Int64) (workload : String) (active : Bool)
  | addUser (user : Principal)
  | seed (cluster : Int64) (name : String)
  | failNextCreate

/-- Nothing is answered for what is done to the clusters. -/
inductive Answer where
  | registry (outcome : Except RegistryError Value)
  | store (outcome : Except StoreError Value)
  | none
  deriving DecidableEq

/-- The id given to a new registration, if the answer is one. -/
def Answer.issued? : Answer → Option Int64
  | registry (.ok (.record record)) | store (.ok (.record record)) => some record.id
  | _ => .none

/-- The id of the record that an operation deleted, going by its answer. -/
def Operation.deleted? : Operation → Answer → Option Int64
  | request (.deregister _ id), .registry (.ok _) | delete id, .store (.ok _) => some id
  | _, _ => none

section

variable [Store σ]

def Operation.perform : Operation → World σ Clusters → Answer × World σ Clusters
  | request asked, world =>
      let (outcome, world) := world.run asked.procedure
      (.registry outcome, world)
  | insert draft, world =>
      let (outcome, store) := Store.insert world.store draft
      (.store (outcome.map .record), { world with store })
  | delete id, world =>
      let (outcome, store) := Store.delete world.store id
      (.store (outcome.map fun _ => .unit), { world with store })
  | findByPair name cluster, world =>
      (.store ((Store.findByPair world.store name cluster).map .found), world)
  | findById id, world => (.store ((Store.findById world.store id).map .found), world)
  | listAll, world => (.store ((Store.listAll world.store).map .records), world)
  | grant user id, world =>
      let (outcome, store) := Store.grant world.store user id
      (.store (outcome.map fun _ => .unit), { world with store })
  | revoke user id, world =>
      let (outcome, store) := Store.revoke world.store user id
      (.store (outcome.map fun _ => .unit), { world with store })
  | setWorkload id workload active, world =>
      let (outcome, store) := Store.setWorkload world.store id workload active
      (.store (outcome.map fun _ => .unit), { world with store })
  | addUser user, world =>
      let (outcome, store) := Store.addUser world.store user
      (.store (outcome.map fun _ => .unit), { world with store })
  | seed cluster name, world => (.none, { world with gateway := world.gateway.seed cluster name })
  | failNextCreate, world => (.none, { world with gateway := world.gateway.failNextCreate })

namespace World

def after (world : World σ Clusters) : List Operation → World σ Clusters
  | [] => world
  | operation :: rest => (operation.perform world).2.after rest

def answers (world : World σ Clusters) : List Operation → List Answer
  | [] => []
  | operation :: rest => (operation.perform world).1 :: (operation.perform world).2.answers rest

/-- The ids given in the course of a history, in order. -/
def issued (world : World σ Clusters) (history : List Operation) : List Int64 :=
  (world.answers history).filterMap Answer.issued?

theorem issued_cons (world : World σ Clusters) (operation : Operation) (rest : List Operation) :
    world.issued (operation :: rest) =
      (operation.perform world).1.issued?.toList ++ (operation.perform world).2.issued rest := by
  simp only [issued, answers, List.filterMap_cons]
  cases (operation.perform world).1.issued? <;> rfl

/-- The ids of the records deleted in the course of a history, in order. -/
def deleted (world : World σ Clusters) : List Operation → List Int64
  | [] => []
  | operation :: rest =>
      (operation.deleted? (operation.perform world).1).toList ++
        (operation.perform world).2.deleted rest

theorem run_map [Gateway γ] (world : World σ γ) (transform : α → β) (procedure : Procedure α) :
    world.run (procedure.map transform) =
      (transform (world.run procedure).1, (world.run procedure).2) :=
  Procedure.run_map answering transform procedure world

end World

theorem Operation.perform_register (world : World σ Clusters) (caller : Principal) (name : String)
    (cluster : Int64) (stamp : Stamp) :
    (request (.register caller name cluster stamp)).perform world =
      (.registry ((world.run (Registry.register caller name cluster stamp)).1.map .record),
        (world.run (Registry.register caller name cluster stamp)).2) := by
  simp only [perform, RegistryRequest.procedure, World.run_map]

end

/-! ## Back ends -/

/-- The stores a registry runs on. -/
inductive BackEnd where
  | memory
  | database
  deriving DecidableEq

namespace BackEnd

open Readable

abbrev State : BackEnd → Type
  | memory => Memory
  | database => Database

instance : (backEnd : BackEnd) → Store backEnd.State
  | memory => inferInstanceAs (Store Memory)
  | database => inferInstanceAs (Store Database)

/-- Nothing is in a fresh store; the database has its tables. -/
def fresh : (backEnd : BackEnd) → backEnd.State
  | memory => Memory.empty
  | database => Database.fresh

def start (backEnd : BackEnd) (clusters : Clusters) : World backEnd.State Clusters :=
  ⟨backEnd.fresh, clusters⟩

instance : (backEnd : BackEnd) → Readable backEnd.State
  | memory => inferInstanceAs (Readable Memory)
  | database => inferInstanceAs (Readable Database)

instance : (backEnd : BackEnd) → LawfulStore backEnd.State
  | memory => inferInstanceAs (LawfulStore Memory)
  | database => inferInstanceAs (LawfulStore Database)

theorem sound_fresh (backEnd : BackEnd) : Sound backEnd.fresh := by
  cases backEnd with
  | memory => exact Memory.sound_empty
  | database => exact Database.sound_fresh

theorem contents_fresh (backEnd : BackEnd) : contents backEnd.fresh = Contents.empty := by
  cases backEnd with
  | memory => exact Memory.contents_empty
  | database => exact Database.contents_fresh

end BackEnd

end Tenancy
