import Tenancy.Procedure

/-! Collaborators that go wrong on purpose: the next call of a kind gets a planned outcome in place of
its own, once. The world is not touched by such a call. -/

namespace Tenancy

inductive CallKind where
  | findByPair
  | findById
  | listAll
  | insert
  | delete
  | grantsOf
  | findUser
  | hasActive
  | isPresent
  | create
  deriving DecidableEq, Repr

def Call.kind : Call → CallKind
  | findByPair .. => .findByPair
  | findById _ => .findById
  | listAll => .listAll
  | insert _ => .insert
  | delete _ => .delete
  | grantsOf _ => .grantsOf
  | findUser _ => .findUser
  | hasActive _ => .hasActive
  | isPresent .. => .isPresent
  | create .. => .create

inductive Outcome where
  | storeFails (error : StoreError)
  | gatewayFails (error : GatewayError)
  /-- Nothing is found, or nothing is done. -/
  | miss
  deriving DecidableEq, Repr

namespace Outcome

def ofStore (outcome : Outcome) (missed : Option α) : Option (Except StoreError α) :=
  match outcome with
  | storeFails error => some (.error error)
  | gatewayFails _ => none
  | miss => missed.map .ok

def ofGateway (outcome : Outcome) (missed : α) : Option (Except GatewayError α) :=
  match outcome with
  | storeFails _ => none
  | gatewayFails error => some (.error error)
  | miss => some (.ok missed)

/-- The answer to a call, if the outcome is one the call can have. -/
def answer? (outcome : Outcome) : (call : Call) → Option call.Answer
  | .findByPair .. | .findById _ => outcome.ofStore (some none)
  | .listAll => outcome.ofStore (some [])
  | .insert _ => outcome.ofStore none
  | .delete _ => outcome.ofStore (some ())
  | .grantsOf _ => outcome.ofStore (some [])
  | .findUser _ => outcome.ofStore (some none)
  | .hasActive _ => outcome.ofStore (some false)
  | .isPresent .. => outcome.ofGateway false
  | .create .. => outcome.ofGateway ()

end Outcome

structure Faulty (ω : Type) where
  world : ω
  planned : List (CallKind × Outcome)

namespace Faulty

def plan (faulty : Faulty ω) (kind : CallKind) (outcome : Outcome) : Faulty ω :=
  { faulty with planned := faulty.planned ++ [(kind, outcome)] }

def planned? (faulty : Faulty ω) (call : Call) : Option call.Answer := do
  let (_, outcome) ← faulty.planned.find? (·.1 = call.kind)
  outcome.answer? call

/-- What is left to happen once the first outcome planned for a kind has happened. -/
def spend (kind : CallKind) (planned : List (CallKind × Outcome)) : List (CallKind × Outcome) :=
  planned.eraseP (·.1 = kind)

def answering (inner : Answering ω) : Answering (Faulty ω) := fun call faulty =>
  match faulty.planned? call with
  | some answer => (answer, { faulty with planned := spend call.kind faulty.planned })
  | none =>
      let (answer, world) := inner call faulty.world
      (answer, { faulty with world })

end Faulty

end Tenancy
