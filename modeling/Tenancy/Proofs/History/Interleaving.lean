import Tenancy.Proofs.History.Consistency

/-! Requests side by side. Each is a tree of calls, and a step makes one call of one of them, so a
list of steps is an order in which the calls of all come to be made. -/

namespace Tenancy

open Readable

/-! ## Bounded procedures -/

namespace Procedure

/-- At most so many calls are made, whatever the answers. -/
inductive Within : Nat → Procedure α → Prop
  | done {bound : Nat} (value : α) : Within bound (.done value)
  | ask {bound : Nat} {call : Call} {resume : call.Answer → Procedure α}
      (rest : ∀ answer, Within bound (resume answer)) : Within (bound + 1) (.ask call resume)

def outcome? : Procedure α → Option α
  | .done value => some value
  | .ask .. => none

theorem Within.step {procedure : Procedure α} {bound : Nat} (within : procedure.Within bound)
    (answering : Answering ω) (world : ω) :
    (procedure.step answering world).1.Within (bound - 1) := by
  cases within with
  | done value => exact .done value
  | ask rest => exact rest _

theorem Within.isSome_outcome? {procedure : Procedure α} (within : procedure.Within 0) :
    procedure.outcome?.isSome = true := by
  cases within with
  | done value => rfl

theorem Within.map {procedure : Procedure α} {bound : Nat} (within : procedure.Within bound)
    (transform : α → β) : (procedure.map transform).Within bound := by
  induction within with
  | done value => exact .done _
  | ask rest induction => exact .ask induction

end Procedure

/-! ## Pools -/

/-- Requests under way, and the world they share. -/
structure Pool (σ : Type) where
  world : World σ Clusters
  requests : List (Attempt Value)

/-- A call of one of the requests, or an operation from elsewhere. -/
inductive Event where
  | advance (index : Nat)
  | perform (operation : Operation)

namespace Pool

variable [Store σ]

def start (world : World σ Clusters) (requests : List RegistryRequest) : Pool σ :=
  ⟨world, requests.map RegistryRequest.procedure⟩

def advance (pool : Pool σ) (index : Nat) : Pool σ :=
  match pool.requests[index]? with
  | none => pool
  | some request =>
      let (rest, world) := request.step World.answering pool.world
      ⟨world, pool.requests.set index rest⟩

def handle (pool : Pool σ) : Event → Pool σ
  | .advance index => pool.advance index
  | .perform operation => { pool with world := (operation.perform pool.world).2 }

def follow (pool : Pool σ) (events : List Event) : Pool σ :=
  events.foldl handle pool

def outcome? (pool : Pool σ) (index : Nat) : Option (Except RegistryError Value) :=
  pool.requests[index]?.bind Procedure.outcome?

def Finished (pool : Pool σ) : Prop :=
  ∀ index < pool.requests.length, (pool.outcome? index).isSome

variable {pool : Pool σ}

theorem advance_of_none {index : Nat} (absent : pool.requests[index]? = none) :
    pool.advance index = pool := by
  simp only [advance, absent]

theorem advance_of_some {index : Nat} {request : Attempt Value}
    (found : pool.requests[index]? = some request) :
    pool.advance index = ⟨(request.step World.answering pool.world).2,
      pool.requests.set index (request.step World.answering pool.world).1⟩ := by
  simp only [advance, found]

/-- A request that has finished makes no more calls. -/
theorem advance_of_done {index : Nat} {outcome : Except RegistryError Value}
    (found : pool.requests[index]? = some (.done outcome)) : pool.advance index = pool := by
  rcases List.getElem?_eq_some_iff.mp found with ⟨inside, equal⟩
  rw [advance_of_some found, Procedure.step, ← equal, List.set_getElem_self]

theorem length_advance (pool : Pool σ) (index : Nat) :
    (pool.advance index).requests.length = pool.requests.length := by
  cases found : pool.requests[index]? with
  | none => rw [advance_of_none found]
  | some request =>
      rw [advance_of_some found]
      exact List.length_set

theorem getElem?_advance_same {index : Nat} {request : Attempt Value}
    (found : pool.requests[index]? = some request) :
    (pool.advance index).requests[index]? =
      some (request.step World.answering pool.world).1 := by
  rw [advance_of_some found]
  exact List.getElem?_set_self (List.getElem?_eq_some_iff.mp found).1

theorem getElem?_advance_other (pool : Pool σ) {index other : Nat} (different : other ≠ index) :
    (pool.advance index).requests[other]? = pool.requests[other]? := by
  cases found : pool.requests[index]? with
  | none => rw [advance_of_none found]
  | some request =>
      rw [advance_of_some found]
      exact List.getElem?_set_ne different.symm

/-! ## Turns

A request that gets as many turns as it can make calls finishes. -/

theorem within_follow {index bound : Nat} {request : Attempt Value}
    (found : pool.requests[index]? = some request) (within : request.Within bound)
    (schedule : List Nat) :
    ∃ rest, (pool.follow (schedule.map .advance)).requests[index]? = some rest ∧
      rest.Within (bound - schedule.count index) := by
  induction schedule generalizing pool bound request with
  | nil => exact ⟨request, found, within⟩
  | cons turn rest induction =>
      by_cases same : turn = index
      · subst turn
        rcases induction (getElem?_advance_same found) (within.step _ _) with
          ⟨last, lastFound, bounded⟩
        refine ⟨last, lastFound, ?_⟩
        rw [List.count_cons_self, Nat.add_comm, Nat.sub_add_eq]
        exact bounded
      · have kept := (getElem?_advance_other pool (Ne.symm same)).trans found
        rcases induction kept within with ⟨last, lastFound, bounded⟩
        refine ⟨last, lastFound, ?_⟩
        rw [List.count_cons_of_ne same]
        exact bounded

theorem length_follow (pool : Pool σ) (schedule : List Nat) :
    (pool.follow (schedule.map .advance)).requests.length = pool.requests.length := by
  induction schedule generalizing pool with
  | nil => rfl
  | cons turn rest induction =>
      exact (induction (pool.advance turn)).trans (length_advance pool turn)

/-- However the turns are shared out, enough of them for each request finish all. -/
theorem finished_follow {bound : Nat} {schedule : List Nat}
    (within : ∀ request ∈ pool.requests, request.Within bound)
    (turns : ∀ index < pool.requests.length, bound ≤ schedule.count index) :
    (pool.follow (schedule.map .advance)).Finished := by
  intro index inside
  rw [length_follow] at inside
  have found : pool.requests[index]? = some pool.requests[index] := List.getElem?_eq_getElem inside
  rcases within_follow found (within _ (List.getElem_mem inside)) schedule with
    ⟨rest, restFound, bounded⟩
  rw [Nat.sub_eq_zero_of_le (turns index inside)] at bounded
  rw [outcome?, restFound]
  exact bounded.isSome_outcome?

/-! ## Safety

No order of the calls brings a name onto its cluster twice. -/

variable [Readable σ] [LawfulStore σ]

theorem sound_advance (sound : Sound pool.world.store) (index : Nat) :
    Sound (pool.advance index).world.store := by
  cases found : pool.requests[index]? with
  | none =>
      rw [advance_of_none found]
      exact sound
  | some request =>
      rw [advance_of_some found]
      cases request with
      | done outcome => exact sound
      | ask call resume => exact World.sound_answering sound call

theorem sound_handle (sound : Sound pool.world.store) (event : Event) :
    Sound (pool.handle event).world.store := by
  cases event with
  | advance index => exact sound_advance sound index
  | perform operation => exact (change_perform sound operation).1

theorem sound_follow (sound : Sound pool.world.store) (events : List Event) :
    Sound (pool.follow events).world.store := by
  induction events generalizing pool with
  | nil => exact sound
  | cons event rest induction => exact induction (sound_handle sound event)

end Pool

end Tenancy
