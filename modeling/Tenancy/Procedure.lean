import Tenancy.Error
import Tenancy.Principal
import Tenancy.Registration

/-! What a request does is a tree of calls to the store and the cluster gateway. Each call is one
atomic step, so the same tree can be run to its end, stepped between the steps of other requests, or
read for the calls it makes. -/

namespace Tenancy

inductive Call where
  | findByPair (name : String) (cluster : Int64)
  | findById (id : Int64)
  | listAll
  | insert (draft : Draft)
  | delete (id : Int64)
  | grantsOf (user : Int64)
  | findUser (id : Int64)
  | hasActive (id : Int64)
  | isPresent (cluster : Int64) (name : String)
  | create (cluster : Int64) (name : String)
  deriving DecidableEq

namespace Call

abbrev Answer : Call → Type
  | findByPair .. | findById _ => Except StoreError (Option Registration)
  | listAll => Except StoreError (List Registration)
  | insert _ => Except StoreError Registration
  | delete _ => Except StoreError Unit
  | grantsOf _ => Except StoreError (List Int64)
  | findUser _ => Except StoreError (Option Principal)
  | hasActive _ => Except StoreError Bool
  | isPresent .. => Except GatewayError Bool
  | create .. => Except GatewayError Unit

end Call

inductive Procedure (α : Type) where
  | done (value : α)
  | ask (call : Call) (resume : call.Answer → Procedure α)

/-- How the collaborators answer a call, and what becomes of the world they act on. -/
abbrev Answering (ω : Type) := (call : Call) → ω → call.Answer × ω

namespace Procedure

def bind (procedure : Procedure α) (next : α → Procedure β) : Procedure β :=
  match procedure with
  | done value => next value
  | ask call resume => ask call fun answer => (resume answer).bind next

def map (transform : α → β) (procedure : Procedure α) : Procedure β :=
  procedure.bind fun value => done (transform value)

def run (answering : Answering ω) : Procedure α → ω → α × ω
  | done value, world => (value, world)
  | ask call resume, world =>
      (resume (answering call world).1).run answering (answering call world).2

def step (answering : Answering ω) : Procedure α → ω → Procedure α × ω
  | done value, world => (done value, world)
  | ask call resume, world => (resume (answering call world).1, (answering call world).2)

/-- The calls made by a run, in order. -/
def calls (answering : Answering ω) : Procedure α → ω → List Call
  | done _, _ => []
  | ask call resume, world =>
      call :: (resume (answering call world).1).calls answering (answering call world).2

theorem run_bind (answering : Answering ω) (procedure : Procedure α) (next : α → Procedure β)
    (world : ω) :
    (procedure.bind next).run answering world =
      (next (procedure.run answering world).1).run answering (procedure.run answering world).2 := by
  induction procedure generalizing world with
  | done value => rfl
  | ask call resume induction => exact induction _ _

theorem run_map (answering : Answering ω) (transform : α → β) (procedure : Procedure α)
    (world : ω) :
    (procedure.map transform).run answering world =
      (transform (procedure.run answering world).1, (procedure.run answering world).2) :=
  run_bind answering procedure _ world

end Procedure

/-! ## Attempts

A procedure that may fail in the registry's own terms. -/

abbrev Attempt (α : Type) := Procedure (Except RegistryError α)

namespace Procedure

def succeed (value : α) : Attempt α := .done (.ok value)

def fail (error : RegistryError) : Attempt α := .done (.error error)

end Procedure

end Tenancy
