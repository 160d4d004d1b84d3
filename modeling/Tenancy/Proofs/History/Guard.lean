import Mathlib.Data.List.Induction
import Tenancy.Proofs.History.Interleaving

/-! De-registrations side by side, while workloads come and go. A de-registration looks whether the
namespace is in use and deletes the record in a later call, so it goes by what it saw then. -/

namespace Tenancy

open Readable Registry

/-! ## Moves -/

structure Deregistration where
  caller : Principal
  id : Int64

def Deregistration.request (asked : Deregistration) : RegistryRequest :=
  .deregister asked.caller asked.id

/-- A call of one of the requests, or a workload that is set from elsewhere. -/
inductive Move where
  | call (index : Nat)
  | mark (id : Int64) (workload : String) (active : Bool)
  deriving DecidableEq

def Move.event : Move → Event
  | call index => .advance index
  | mark id workload active => .perform (.setWorkload id workload active)

section

variable [Store σ] {pool : Pool σ} {moves : List Move}

def Pool.moved (pool : Pool σ) (moves : List Move) : Pool σ :=
  pool.follow (moves.map Move.event)

theorem Pool.moved_append (pool : Pool σ) (moves more : List Move) :
    pool.moved (moves ++ more) = (pool.moved moves).moved more := by
  simp only [moved, follow, List.map_append, List.foldl_append]

theorem Pool.moved_concat (pool : Pool σ) (moves : List Move) (move : Move) :
    pool.moved (moves ++ [move]) = (pool.moved moves).handle move.event :=
  pool.moved_append moves [move]

theorem Pool.length_moved (pool : Pool σ) (moves : List Move) :
    (pool.moved moves).requests.length = pool.requests.length := by
  induction moves generalizing pool with
  | nil => rfl
  | cons move rest induction =>
      refine (induction (pool.handle move.event)).trans ?_
      cases move with
      | mark id workload active => rfl
      | call index => exact pool.length_advance index

end

/-! ## Workloads -/

section

variable [Store σ] [Readable σ] [LawfulStore σ] {world : World σ Clusters} {pool : Pool σ}
  {id : Int64}

theorem World.active_of_answering (sound : Sound world.store) (call : Call)
    (active : (contents (answering call world).2.store).active id = true) :
    (contents world.store).active id = true := by
  cases call with
  | insert draft =>
      have outcome := LawfulStore.insert sound draft
      simp only [answering] at active
      generalize Store.insert world.store draft = result at outcome active
      cases outcome with
      | conflict | failed => exact active
      | entered record next nextSound enters =>
          rw [enters.rest] at active
          exact active
  | delete removed =>
      have outcome := LawfulStore.delete sound removed
      simp only [answering] at active
      generalize Store.delete world.store removed = result at outcome active
      cases outcome with
      | missing => exact active
      | removed next nextSound removes => exact removes.active_subset id active
  | findByPair | findById | listAll | grantsOf | findUser | hasActive | isPresent | create =>
      exact active

/-- A namespace that is not in use comes into use by being marked only. -/
theorem Pool.inactive_handle (sound : Sound pool.world.store)
    (inactive : (contents pool.world.store).active id = false) {move : Move}
    (unmarked : ∀ workload, move ≠ .mark id workload true) :
    (contents (pool.handle move.event).world.store).active id = false := by
  rw [← Bool.not_eq_true] at inactive ⊢
  intro active
  apply inactive
  cases move with
  | call index =>
      simp only [Move.event, handle] at active
      cases found : pool.requests[index]? with
      | none =>
          rw [advance_of_none found] at active
          exact active
      | some request =>
          rw [advance_of_some found] at active
          cases request with
          | done outcome => exact active
          | ask call resume => exact World.active_of_answering sound call active
  | mark marked workload value =>
      have outcome := LawfulStore.setWorkload sound marked workload value
      simp only [Move.event, handle, Operation.perform] at active
      generalize Store.setWorkload pool.world.store marked workload value = result
        at outcome active
      cases outcome with
      | mk next nextSound marks =>
          by_cases same : id = marked
          · subst marked
            cases value with
            | true => exact absurd rfl (unmarked workload)
            | false => exact (marks.clear rfl active).1
          · exact (marks.other id same).symm.trans active

theorem Pool.sound_moved (sound : Sound pool.world.store) (moves : List Move) :
    Sound (pool.moved moves).world.store :=
  sound_follow sound _

theorem Pool.inactive_moved (sound : Sound pool.world.store)
    (inactive : (contents pool.world.store).active id = false) {moves : List Move}
    (unmarked : ∀ workload, .mark id workload true ∉ moves) :
    (contents (pool.moved moves).world.store).active id = false := by
  induction moves generalizing pool with
  | nil => exact inactive
  | cons move rest induction =>
      apply induction (sound_handle sound move.event)
      · exact inactive_handle sound inactive fun workload equal =>
          unmarked workload (equal ▸ List.mem_cons_self)
      · exact fun workload member => unmarked workload (List.mem_cons_of_mem move member)

end

/-! ## De-registrations under way -/

/-- What is left of a de-registration, by the call that is next. It only comes to delete the record
once it has been cleared to, by an answer that the namespace is not in use. -/
inductive Deregistering (id : Int64) : (cleared : Bool) → Attempt Value → Prop
  | lookup {resume : Except StoreError (Option Registration) → Attempt Value}
      (looked : ∀ found, Deregistering id false (resume (.ok found))) :
      Deregistering id false (.ask (.findById id) resume)
  | guard {resume : Except StoreError Bool → Attempt Value}
      (inUse : Deregistering id false (resume (.ok true)))
      (unused : Deregistering id true (resume (.ok false))) :
      Deregistering id false (.ask (.hasActive id) resume)
  | removal {resume : Except StoreError Unit → Attempt Value}
      (missing : ∃ error, resume (.error (.notFound id)) = .done (.error error))
      (removed : resume (.ok ()) = .done (.ok .unit)) :
      Deregistering id true (.ask (.delete id) resume)
  | refused {cleared : Bool} (error : RegistryError) :
      Deregistering id cleared (.done (.error error))

theorem deregistering_request (asked : Deregistration) :
    Deregistering asked.id false asked.request.procedure := by
  apply Deregistering.lookup
  intro found
  cases found with
  | none => exact .refused _
  | some registration =>
      by_cases manages : canManage asked.caller registration = true
      · simp only [if_pos manages]
        exact .guard (.refused _) (.removal ⟨_, rfl⟩ rfl)
      · simp only [if_neg manages]
        exact .refused _

section

variable [Store σ] [Readable σ] {start : Pool σ} {index : Nat} {id : Int64} {moves : List Move}
  {request : Attempt Value}

/-- The request is about to make a call. -/
def Pool.Asks (pool : Pool σ) (index : Nat) (call : Call) : Prop :=
  ∃ resume, pool.requests[index]? = some (.ask call resume)

/-- A request sees that a namespace is not in use, and its next call deletes the record. The
namespace is still not in use then if it was not marked in between. -/
structure Removal (start : Pool σ) (index : Nat) (id : Int64) (before between : List Move) :
    Prop where
  looks : (start.moved before).Asks index (.hasActive id)
  checked : (contents (start.moved before).world.store).active id = false
  alone : .call index ∉ between
  deletes : (start.moved (before ++ .call index :: between)).Asks index (.delete id)
  unused : (∀ workload, .mark id workload true ∉ between) →
    (contents (start.moved (before ++ .call index :: between)).world.store).active id = false
  removes : (contents (start.moved (before ++ .call index :: between)).world.store).Removes
    (contents (start.moved (before ++ .call index :: between ++ [.call index])).world.store) id

inductive Stage (start : Pool σ) (index : Nat) (id : Int64) : List Move → Attempt Value → Prop
  | asking {moves : List Move} {request : Attempt Value} (rest : Deregistering id false request) :
      Stage start index id moves request
  | cleared {before between : List Move} {request : Attempt Value}
      (looks : (start.moved before).Asks index (.hasActive id))
      (checked : (contents (start.moved before).world.store).active id = false)
      (alone : .call index ∉ between) (rest : Deregistering id true request) :
      Stage start index id (before ++ .call index :: between) request
  | removed {before between : List Move} (removal : Removal start index id before between)
      (after : List Move) :
      Stage start index id (before ++ .call index :: between ++ .call index :: after)
        (.done (.ok .unit))

/-- Nothing changes for a request while others move. -/
theorem Stage.other (stage : Stage start index id moves request) {move : Move}
    (other : move ≠ .call index) : Stage start index id (moves ++ [move]) request := by
  cases stage with
  | asking rest => exact .asking rest
  | @cleared before between _ looks checked alone rest =>
      rw [List.append_assoc, List.cons_append]
      refine .cleared looks checked ?_ rest
      intro member
      rcases List.mem_append.mp member with earlier | last
      · exact alone earlier
      · exact other (List.mem_singleton.mp last).symm
  | @removed before between removal after =>
      rw [List.append_assoc, List.cons_append]
      exact .removed removal (after ++ [move])

theorem Stage.refused {error : RegistryError} :
    Stage start index id moves (.done (.error error)) :=
  .asking (.refused error)

/-- A call of the request itself takes it to its next stage, and if it changes anything, it deletes
the record. -/
theorem Stage.call [LawfulStore σ] (stage : Stage start index id moves request)
    (sound : Sound start.world.store)
    (found : (start.moved moves).requests[index]? = some request) :
    ∃ rest, (start.moved (moves ++ [.call index])).requests[index]? = some rest ∧
      Stage start index id (moves ++ [.call index]) rest ∧
      ((start.moved (moves ++ [.call index])).world = (start.moved moves).world ∨
        rest = .done (.ok .unit) ∧ ∃ before between,
          moves = before ++ .call index :: between ∧ Removal start index id before between) := by
  have steps : start.moved (moves ++ [.call index]) = (start.moved moves).advance index :=
    start.moved_concat moves _
  have next := Pool.getElem?_advance_same found
  have world := congrArg Pool.world (Pool.advance_of_some found)
  rw [← steps] at next world
  have soundHere := Pool.sound_moved sound moves
  refine ⟨_, next, ?_⟩
  rw [world]
  cases stage with
  | asking rest =>
      cases rest with
      | lookup looked =>
          simp only [Procedure.step, World.answering, LawfulStore.findById soundHere]
          exact ⟨.asking (looked _), .inl trivial⟩
      | guard inUse unused =>
          simp only [Procedure.step, World.answering, LawfulStore.hasActive soundHere]
          cases active : (contents (start.moved moves).world.store).active id with
          | true => exact ⟨.asking inUse, .inl trivial⟩
          | false =>
              exact ⟨.cleared ⟨_, found⟩ active List.not_mem_nil unused, .inl trivial⟩
      | refused error => exact ⟨.refused, .inl rfl⟩
  | @cleared before between _ looks checked alone rest =>
      cases rest with
      | refused error => exact ⟨.refused, .inl rfl⟩
      | @removal resume missing removed =>
          -- the one call that changes the world; the marks are not looked at again
          have outcome := LawfulStore.delete soundHere id
          simp only [Procedure.step, World.answering] at world ⊢
          generalize Store.delete (start.moved (before ++ .call index :: between)).world.store id =
            result at outcome world
          cases outcome with
          | missing absent =>
              rcases missing with ⟨error, missing⟩
              simp only [missing]
              exact ⟨.refused, .inl trivial⟩
          | removed store nextSound removes =>
              have removal : Removal start index id before between := by
                refine ⟨looks, checked, alone, ⟨_, found⟩, ?_, by rw [world]; exact removes⟩
                intro unmarked
                rw [Pool.moved_append]
                apply Pool.inactive_moved (Pool.sound_moved sound before) checked
                simpa using unmarked
              simp only [removed]
              exact ⟨.removed removal [], .inr ⟨trivial, before, between, rfl, removal⟩⟩
  | @removed before between removal after =>
      refine ⟨?_, .inl rfl⟩
      rw [List.append_assoc, List.cons_append]
      exact .removed removal (after ++ [.call index])

theorem stage_moved [LawfulStore σ] (sound : Sound start.world.store) {asked : Deregistration}
    (asks : start.requests[index]? = some asked.request.procedure) (moves : List Move) :
    ∃ request, (start.moved moves).requests[index]? = some request ∧
      Stage start index asked.id moves request := by
  -- from the last move back, as a stage speaks of all moves so far
  induction moves using List.reverseRecOn with
  | nil => exact ⟨asked.request.procedure, asks, .asking (deregistering_request asked)⟩
  | append_singleton moves move induction =>
      rcases induction with ⟨request, found, stage⟩
      by_cases own : move = .call index
      · subst own
        rcases stage.call sound found with ⟨rest, restFound, next, _⟩
        exact ⟨rest, restFound, next⟩
      · refine ⟨request, ?_, stage.other own⟩
        rw [Pool.moved_concat]
        cases move with
        | mark marked workload active => exact found
        | call other =>
            have different : index ≠ other := fun equal => own (equal ▸ rfl)
            exact (Pool.getElem?_advance_other _ different).trans found

/-- A de-registration that has succeeded has removed the record. -/
theorem removal_of_success [LawfulStore σ] (sound : Sound start.world.store)
    {asked : Deregistration} (asks : start.requests[index]? = some asked.request.procedure)
    (succeeded : (start.moved moves).outcome? index = some (.ok .unit)) :
    ∃ before between after, moves = before ++ .call index :: between ++ .call index :: after ∧
      Removal start index asked.id before between := by
  rcases stage_moved sound asks moves with ⟨request, found, stage⟩
  rw [Pool.outcome?, found, Option.bind_some] at succeeded
  cases stage with
  | asking rest => cases rest <;> cases succeeded
  | cleared looks checked alone rest => cases rest <;> cases succeeded
  | @removed before between removal after => exact ⟨before, between, after, rfl, removal⟩

theorem records_mark [LawfulStore σ] {pool : Pool σ} (sound : Sound pool.world.store)
    (workload : String) (active : Bool) :
    (contents (pool.handle (Move.mark id workload active).event).world.store).records =
      (contents pool.world.store).records := by
  have outcome := LawfulStore.setWorkload sound id workload active
  simp only [Move.event, Pool.handle, Operation.perform]
  generalize Store.setWorkload pool.world.store id workload active = result at outcome
  cases outcome with
  | mk next nextSound marks => rw [marks.rest]

theorem Removal.id_of_gone {before between : List Move} {record : Registration}
    (removal : Removal start index id before between)
    (member : record ∈
      (contents (start.moved (before ++ .call index :: between)).world.store).records)
    (gone : record ∉ (contents
      (start.moved (before ++ .call index :: between ++ [.call index])).world.store).records) :
    record.id = id := by
  rw [removal.removes.rest, List.mem_filter, not_and, bne_iff_ne, not_not] at gone
  exact gone member

/-- A move that removes a record is the call of a de-registration, which thereby succeeds. -/
theorem removal_of_gone [LawfulStore σ] (sound : Sound start.world.store)
    {requests : List Deregistration}
    (runs : start.requests = requests.map fun asked => asked.request.procedure)
    {move : Move} {record : Registration}
    (member : record ∈ (contents (start.moved moves).world.store).records)
    (gone : record ∉ (contents (start.moved (moves ++ [move])).world.store).records) :
    ∃ index caller before between, move = .call index ∧
      requests[index]? = some ⟨caller, record.id⟩ ∧
      (start.moved (moves ++ [move])).outcome? index = some (.ok .unit) ∧
      moves = before ++ .call index :: between ∧ Removal start index record.id before between := by
  cases move with
  | mark id workload active =>
      rw [Pool.moved_concat, records_mark (Pool.sound_moved sound moves)] at gone
      exact absurd member gone
  | call index =>
      cases asks : requests[index]? with
      | none =>
          have outside : (start.moved moves).requests[index]? = none := by
            rw [List.getElem?_eq_none_iff, Pool.length_moved, runs, List.length_map]
            exact List.getElem?_eq_none_iff.mp asks
          rw [Pool.moved_concat, Move.event, Pool.handle, Pool.advance_of_none outside] at gone
          exact absurd member gone
      | some asked =>
          have found : start.requests[index]? = some asked.request.procedure := by
            rw [runs, List.getElem?_map, asks]
            rfl
          rcases stage_moved sound found moves with ⟨request, underWay, stage⟩
          rcases stage.call sound underWay with ⟨rest, next, _, same | ⟨done, removed⟩⟩
          · rw [same] at gone
            exact absurd member gone
          · rcases removed with ⟨before, between, rfl, removal⟩
            have same := removal.id_of_gone member gone
            refine ⟨index, asked.caller, before, between, rfl, ?_, ?_, rfl, same ▸ removal⟩
            · rw [same, asks]
            · rw [Pool.outcome?, next, done]
              rfl

end

/-- Whoever de-registers what, and whatever is marked meanwhile: a record is only removed by a
de-registration that thereby succeeds, and none succeeds otherwise. When it last looked, before that
call, the namespace was not in use. That it is not in use when its record goes is certain only where
it was not marked since. -/
theorem deregistrations_go_by_what_they_saw (backEnd : BackEnd) (clusters : Clusters)
    (history : List Operation) (requests : List Deregistration) (moves : List Move) :
    let start := Pool.start ((backEnd.start clusters).after history)
      (requests.map Deregistration.request)
    let pool := start.moved moves
    (∀ index asked, requests[index]? = some asked → pool.outcome? index = some (.ok .unit) →
      ∃ before between after, moves = before ++ .call index :: between ++ .call index :: after ∧
        Removal start index asked.id before between) ∧
    ∀ move, ∀ record ∈ (contents pool.world.store).records,
      record ∉ (contents (start.moved (moves ++ [move])).world.store).records →
      ∃ index caller before between, move = .call index ∧
        requests[index]? = some ⟨caller, record.id⟩ ∧
        (start.moved (moves ++ [move])).outcome? index = some (.ok .unit) ∧
        moves = before ++ .call index :: between ∧
        Removal start index record.id before between := by
  intro start pool
  have sound : Sound start.world.store := backEnd.sound_after clusters history
  have runs : start.requests = requests.map fun asked => asked.request.procedure :=
    List.map_map
  constructor
  · intro index asked asks succeeded
    have found : start.requests[index]? = some asked.request.procedure := by
      rw [runs, List.getElem?_map, asks]
      rfl
    exact removal_of_success sound found succeeded
  · intro move record member gone
    exact removal_of_gone sound runs member gone

/-! Alice gives up a namespace, in which a workload has run. -/

def guarded : Pool BackEnd.database.State :=
  .start ((BackEnd.database.start (.withCodes [100])).after [
    .request (.register ⟨7, "alice", .general⟩ "team-x" 100 ⟨1, .epoch⟩),
    .setWorkload 1 "etl" true, .setWorkload 1 "etl" false])
    [Deregistration.request ⟨⟨7, "alice", .general⟩, 1⟩]

theorem unused_namespace_goes :
    let moves := [.call 0, .call 0, .mark 2 "etl" true, .call 0]
    ((guarded.moved moves).outcome? 0 = some (.ok .unit) ∧
      ∃ before between after, moves = before ++ .call 0 :: between ++ .call 0 :: after ∧
        Removal guarded 0 1 before between) ∧
    ∃ index before between, [.call 0, .call 0, .mark 2 "etl" true] =
      before ++ .call index :: between ∧ Removal guarded index 1 before between := by
  intro moves
  have goes := deregistrations_go_by_what_they_saw .database (.withCodes [100]) [
    .request (.register ⟨7, "alice", .general⟩ "team-x" 100 ⟨1, .epoch⟩),
    .setWorkload 1 "etl" true, .setWorkload 1 "etl" false] [⟨⟨7, "alice", .general⟩, 1⟩]
  have succeeded : (guarded.moved moves).outcome? 0 = some (.ok .unit) := by decide +kernel
  refine ⟨⟨succeeded, (goes moves).1 0 _ rfl succeeded⟩, ?_⟩
  rcases (goes [.call 0, .call 0, .mark 2 "etl" true]).2 (.call 0)
    ⟨1, 1, "team-x", 100, 7, .epoch, .epoch⟩ (by decide +kernel) (by decide +kernel) with
    ⟨index, caller, before, between, _, _, _, split, removal⟩
  exact ⟨index, before, between, split, removal⟩

/-- The workload is marked once more, between the look and the removal. -/
theorem workload_goes_with_its_namespace :
    let marked := guarded.moved [.call 0, .call 0, .mark 1 "etl" true]
    (contents marked.world.store).active 1 = true ∧
    (contents marked.world.store).Registered "team-x" 100 ∧
    (marked.advance 0).outcome? 0 = some (.ok .unit) ∧
    (contents (marked.advance 0).world.store).records = [] ∧
    (contents (marked.advance 0).world.store).active 1 = false := by
  decide +kernel

end Tenancy
