import Tenancy.Proofs.Gateway.Clusters
import Tenancy.Proofs.History.Interleaving

/-! A race for one name on one cluster. Every contender may have looked the name up before any of
them enters it, so what decides is the insert: the first one goes in, and the store refuses all
others. -/

namespace Tenancy

open Readable Registry

/-- One who registers the name, and the stamp that the registration is to carry. -/
structure Contender where
  caller : Principal
  stamp : Stamp

namespace Contender

def request (contender : Contender) (name : String) (cluster : Int64) : RegistryRequest :=
  .register contender.caller name cluster contender.stamp

def draft (contender : Contender) (name : String) (cluster : Int64) : Draft :=
  Registry.draft contender.caller name cluster contender.stamp

/-- The lookup, the two questions to the gateway and the insert. -/
theorem within_request (contender : Contender) (name : String) (cluster : Int64) :
    (contender.request name cluster).procedure.Within 4 := by
  apply Procedure.Within.map
  have entering (bound : Nat) :
      (enter contender.caller name cluster contender.stamp).Within (bound + 1) := by
    apply Procedure.Within.ask
    intro answer
    cases answer with
    | ok record => exact .done _
    | error error => cases error <;> exact .done _
  unfold register
  cases Name.check name with
  | error fault => exact .done _
  | ok _ =>
      apply Procedure.Within.ask
      intro looked
      rcases looked with error | found
      · exact .done _
      cases found with
      | some record => exact .done _
      | none =>
          apply Procedure.Within.ask
          intro asked
          rcases asked with error | present
          · exact .done _
          cases present with
          | true => exact entering 1
          | false =>
              apply Procedure.Within.ask
              intro created
              rcases created with error | _
              · exact .done _
              · exact entering 0

end Contender

/-! ## A contender under way -/

/-- What is left of registering a draft, by the call that is next. -/
inductive Contending (draft : Draft) : Attempt Value → Prop
  | lookup {resume : Except StoreError (Option Registration) → Attempt Value}
      (taken : ∀ record, resume (.ok (some record)) =
        .done (.error (alreadyRegistered draft.name draft.cluster)))
      (free : Contending draft (resume (.ok none))) :
      Contending draft (.ask (.findByPair draft.name draft.cluster) resume)
  | presence {resume : Except GatewayError Bool → Attempt Value}
      (answered : ∀ present, Contending draft (resume (.ok present))) :
      Contending draft (.ask (.isPresent draft.cluster draft.name) resume)
  | creation {resume : Except GatewayError Unit → Attempt Value}
      (created : Contending draft (resume (.ok ()))) :
      Contending draft (.ask (.create draft.cluster draft.name) resume)
  | entry {resume : Except StoreError Registration → Attempt Value}
      (entered : ∀ record, resume (.ok record) = .done (.ok (.record record)))
      (refused : ∀ text, resume (.error (.conflict text)) =
        .done (.error (alreadyRegistered draft.name draft.cluster))) :
      Contending draft (.ask (.insert draft) resume)

theorem contending_request {name : String} (valid : Name.check name = .ok ())
    (contender : Contender) (cluster : Int64) :
    Contending (contender.draft name cluster) (contender.request name cluster).procedure := by
  have entering : Contending (contender.draft name cluster)
      ((enter contender.caller name cluster contender.stamp).map (Except.map .record)) :=
    .entry (fun _ => rfl) (fun _ => rfl)
  simp only [Contender.request, RegistryRequest.procedure, register, valid]
  apply Contending.lookup
  · intro record
    rfl
  · apply Contending.presence
    intro present
    cases present with
    | true => exact entering
    | false => exact .creation entering

theorem Contending.outcome? {draft : Draft} {request : Attempt Value}
    (contending : Contending draft request) : request.outcome? = none := by
  cases contending <;> rfl

section

variable [Store σ] [Readable σ] {world : World σ Clusters} {draft : Draft} {request : Attempt Value}

/-- What one call of a contender comes to: it goes on, it wins, or it has lost. -/
inductive Turn (draft : Draft) (world : World σ Clusters) : Attempt Value × World σ Clusters → Prop
  | on {rest : Attempt Value} {gateway : Clusters} (contending : Contending draft rest)
      (willing : gateway.Willing draft.cluster) : Turn draft world (rest, { world with gateway })
  | won {record : Registration} {next : σ} (sound : Sound next)
      (enters : (contents world.store).Enters (contents next) draft record) :
      Turn draft world (.done (.ok (.record record)), { world with store := next })
  | lost (taken : (contents world.store).Registered draft.name draft.cluster) :
      Turn draft world (.done (.error (alreadyRegistered draft.name draft.cluster)), world)

theorem Contending.turn [LawfulStore σ] (contending : Contending draft request)
    (sound : Sound world.store) (willing : world.gateway.Willing draft.cluster)
    (accepts : ¬(contents world.store).Registered draft.name draft.cluster →
      Accepts world.store draft) :
    Turn draft world (request.step World.answering world) := by
  cases contending with
  | lookup taken free =>
      simp only [Procedure.step, World.answering, LawfulStore.findByPair sound]
      cases search : (contents world.store).records.find? (·.isFor draft.name draft.cluster) with
      | none => exact .on free willing
      | some record =>
          rw [taken record]
          have named := List.find?_some search
          exact .lost ⟨record, List.mem_of_find?_eq_some search, named⟩
  | presence answered =>
      simp only [Procedure.step, World.answering, Gateway.isPresent, Clusters.isPresent,
        if_pos willing.known]
      exact .on (answered _) willing
  | creation created =>
      rcases willing.create draft.name with ⟨gateway, creates, stillWilling⟩
      simp only [Procedure.step, World.answering, Gateway.create, creates]
      exact .on created stillWilling
  | entry entered refused =>
      have outcome := LawfulStore.insert sound draft
      simp only [Procedure.step, World.answering, Accepts] at accepts ⊢
      generalize Store.insert world.store draft = result at outcome accepts
      cases outcome with
      | conflict text taken =>
          rw [refused text]
          exact .lost taken
      | failed text free fault => exact absurd rfl (accepts free text)
      | entered record next nextSound enters =>
          rw [entered record]
          exact .won nextSound enters

end

/-! ## The race -/

structure Race where
  name : String
  cluster : Int64
  contenders : List Contender

namespace Race

def requests (race : Race) : List RegistryRequest :=
  race.contenders.map (·.request race.name race.cluster)

/-- The name is valid and free on a cluster that is known, and no fault is waiting. -/
structure Fair [Store σ] (race : Race) (world : World σ Clusters) : Prop where
  valid : Name.check race.name = .ok ()
  free : Store.findByPair world.store race.name race.cluster = .ok none
  willing : world.gateway.Willing race.cluster
  accepts : ∀ contender ∈ race.contenders,
    Accepts world.store (contender.draft race.name race.cluster)

/-- One contender has got the only record of the name, and everybody else was refused. -/
structure Decided [Store σ] (race : Race) (winner : Nat) (record : Registration) (pool : Pool σ) :
    Prop where
  won : pool.outcome? winner = some (.ok (.record record))
  owned : ∃ contender, race.contenders[winner]? = some contender ∧
    record.owner = contender.caller.id
  lost : ∀ other < race.contenders.length, other ≠ winner →
    pool.outcome? other = some (.error (alreadyRegistered race.name race.cluster))
  recordOnce : ∃ records, Store.listAll pool.world.store = .ok records ∧
    records.filter (·.isFor race.name race.cluster) = [record]

/-! ### How a race stands -/

/-- A request of a contender that has not finished. -/
def Contends (race : Race) (index : Nat) (request : Attempt Value) : Prop :=
  ∃ contender, race.contenders[index]? = some contender ∧
    Contending (contender.draft race.name race.cluster) request

def refusal (race : Race) : Attempt Value :=
  .done (.error (alreadyRegistered race.name race.cluster))

/-- Nobody has entered the name yet. -/
structure Open (race : Race) (origin : σ) (pool : Pool σ) : Prop where
  store : pool.world.store = origin
  willing : pool.world.gateway.Willing race.cluster
  contend : ∀ index request, pool.requests[index]? = some request → race.Contends index request

/-- One contender has entered the name. The others have lost, or have yet to find out. -/
structure Won [Readable σ] (race : Race) (origin : σ) (winner : Nat) (record : Registration)
    (pool : Pool σ) : Prop where
  sound : Sound pool.world.store
  willing : pool.world.gateway.Willing race.cluster
  enters : ∃ contender, race.contenders[winner]? = some contender ∧
    (contents origin).Enters (contents pool.world.store)
      (contender.draft race.name race.cluster) record
  first : pool.requests[winner]? = some (.done (.ok (.record record)))
  others : ∀ index request, index ≠ winner → pool.requests[index]? = some request →
    race.Contends index request ∨ request = race.refusal

variable {race : Race} {origin : σ} {pool : Pool σ} {winner : Nat} {record : Registration}

theorem Contends.outcome? {index : Nat} {request : Attempt Value}
    (contends : race.Contends index request) : request.outcome? = none := by
  rcases contends with ⟨contender, runs, contending⟩
  exact contending.outcome?

/-- At the start every contender is about to look the name up. -/
theorem open_start {world : World σ Clusters} (valid : Name.check race.name = .ok ())
    (willing : world.gateway.Willing race.cluster) :
    race.Open world.store (.start world race.requests) := by
  refine ⟨rfl, willing, ?_⟩
  intro index request found
  simp only [Pool.start, requests, List.map_map, List.getElem?_map, Option.map_eq_some_iff] at found
  rcases found with ⟨contender, runs, equal⟩
  exact ⟨contender, runs, equal ▸ contending_request valid contender race.cluster⟩

/-- In a race that is open, all are still running. -/
theorem Open.not_finished (still : race.Open origin pool) (populated : pool.requests ≠ []) :
    ¬pool.Finished := by
  intro finished
  have inside : 0 < pool.requests.length := List.length_pos_iff.mpr populated
  have found := List.getElem?_eq_getElem inside
  have finishes := finished 0 inside
  rw [Pool.outcome?, found, Option.bind_some, (still.contend 0 _ found).outcome?] at finishes
  cases finishes

theorem Won.registered [Readable σ] (won : race.Won origin winner record pool) :
    (contents pool.world.store).Registered race.name race.cluster := by
  rcases won.enters with ⟨contender, found, enters⟩
  refine ⟨record, ?_, Registration.isFor_iff.mpr enters.pair⟩
  rw [enters.rest]
  exact List.mem_append_right _ (List.mem_singleton_self record)

theorem Won.replace [Readable σ] {index : Nat} {rest : Attempt Value} {gateway : Clusters}
    (won : race.Won origin winner record pool) (different : index ≠ winner)
    (willing : gateway.Willing race.cluster)
    (stands : race.Contends index rest ∨ rest = race.refusal) :
    race.Won origin winner record
      ⟨{ pool.world with gateway }, pool.requests.set index rest⟩ := by
  refine ⟨won.sound, willing, won.enters, ?_, ?_⟩
  · rw [List.getElem?_set_ne different]
    exact won.first
  · intro other request otherDifferent found
    by_cases same : index = other
    · subst other
      have inside : index < pool.requests.length := by
        rw [← List.length_set (a := rest)]
        exact (List.getElem?_eq_some_iff.mp found).1
      rw [List.getElem?_set_self inside, Option.some.injEq] at found
      exact found ▸ stands
    · rw [List.getElem?_set_ne same] at found
      exact won.others other request otherDifferent found

/-! ### How a race goes on -/

variable [Store σ] [Readable σ] [LawfulStore σ] {world : World σ Clusters}

theorem Fair.not_registered (fair : race.Fair world) (sound : Sound world.store) :
    ¬(contents world.store).Registered race.name race.cluster := by
  have free := fair.free
  rw [LawfulStore.findByPair sound, Except.ok.injEq, List.find?_eq_none] at free
  intro registered
  rcases registered with ⟨record, member, named⟩
  exact free record member named

/-- As long as nobody has entered the name, the one whose turn it is goes on or wins. -/
theorem Open.advance (still : race.Open world.store pool) (fair : race.Fair world)
    (sound : Sound world.store) (index : Nat) :
    race.Open world.store (pool.advance index) ∨
      ∃ record, race.Won world.store index record (pool.advance index) := by
  cases found : pool.requests[index]? with
  | none =>
      rw [Pool.advance_of_none found]
      exact .inl still
  | some request =>
      rcases still.contend index request found with ⟨contender, runs, contending⟩
      have free : ¬(contents pool.world.store).Registered race.name race.cluster :=
        still.store ▸ fair.not_registered sound
      have turn := contending.turn (still.store ▸ sound) still.willing fun _ =>
        still.store ▸ fair.accepts contender (List.mem_of_getElem? runs)
      have same := Pool.getElem?_advance_same found
      have other (index' : Nat) (different : index' ≠ index) :=
        Pool.getElem?_advance_other pool different
      rw [Pool.advance_of_some found] at same other ⊢
      generalize request.step World.answering pool.world = result at turn same other
      cases turn with
      | on contending willing =>
          refine .inl ⟨still.store, willing, ?_⟩
          intro index' request' found'
          by_cases equal : index' = index
          · subst equal
            rw [same, Option.some.injEq] at found'
            exact ⟨contender, runs, found' ▸ contending⟩
          · exact still.contend index' request' ((other index' equal).symm.trans found')
      | won sound enters =>
          refine .inr ⟨_, sound, still.willing, ⟨contender, runs, still.store ▸ enters⟩, same, ?_⟩
          intro index' request' different found'
          exact .inl (still.contend index' request' ((other index' different).symm.trans found'))
      | lost taken => exact absurd taken free

/-- Once the name is entered, the one whose turn it is goes on or loses. -/
theorem Won.advance (won : race.Won origin winner record pool) (index : Nat) :
    race.Won origin winner record (pool.advance index) := by
  by_cases same : index = winner
  · rw [same, Pool.advance_of_done won.first]
    exact won
  cases found : pool.requests[index]? with
  | none =>
      rw [Pool.advance_of_none found]
      exact won
  | some request =>
      rcases won.others index request same found with ⟨contender, runs, contending⟩ | lost
      · have turn := contending.turn won.sound won.willing fun free => absurd won.registered free
        rw [Pool.advance_of_some found]
        generalize request.step World.answering pool.world = result at turn
        cases turn with
        | on contending willing =>
            exact won.replace same willing (.inl ⟨contender, runs, contending⟩)
        | won sound enters => exact absurd won.registered enters.free
        | lost taken => exact won.replace same won.willing (.inr rfl)
      · rw [Pool.advance_of_done (lost ▸ found)]
        exact won

theorem Won.follow (won : race.Won origin winner record pool) (schedule : List Nat) :
    race.Won origin winner record (pool.follow (schedule.map .advance)) := by
  induction schedule generalizing pool with
  | nil => exact won
  | cons turn rest induction => exact induction (won.advance turn)

/-- However the turns fall, the race is open until one contender has won it, and stays won. -/
theorem Open.follow (still : race.Open world.store pool) (fair : race.Fair world)
    (sound : Sound world.store) (schedule : List Nat) :
    race.Open world.store (pool.follow (schedule.map .advance)) ∨
      ∃ winner record,
        race.Won world.store winner record (pool.follow (schedule.map .advance)) := by
  induction schedule generalizing pool with
  | nil => exact .inl still
  | cons turn rest induction =>
      rcases still.advance fair sound turn with goesOn | ⟨record, won⟩
      · exact induction goesOn
      · exact .inr ⟨turn, record, won.follow rest⟩

/-- When all have finished, there is nobody left who has yet to find out. -/
theorem Won.decided (won : race.Won world.store winner record pool)
    (length : pool.requests.length = race.contenders.length) (finished : pool.Finished) :
    race.Decided winner record pool := by
  rcases won.enters with ⟨contender, runs, enters⟩
  constructor
  · rw [Pool.outcome?, won.first]
    rfl
  · exact ⟨contender, runs, enters.owner⟩
  · intro other inside different
    have found := List.getElem?_eq_getElem (length ▸ inside : other < pool.requests.length)
    have finishes := finished other (length ▸ inside)
    rw [Pool.outcome?, found, Option.bind_some] at finishes ⊢
    rcases won.others other _ different found with contends | lost
    · rw [contends.outcome?] at finishes
      cases finishes
    · rw [lost]
      rfl
  · exact ⟨_, LawfulStore.listAll won.sound, enters.filter_isFor⟩

end Race

/-- Whatever requests and operations run side by side, in whatever order their calls are made, no
name comes onto its cluster twice. Where all that run are contenders in a fair race, enough turns
for each let all finish, and when all have, one has registered the name and the others found it
registered. -/
theorem registration_race_has_one_winner (backEnd : BackEnd) (clusters : Clusters)
    (history : List Operation) :
    let world := (backEnd.start clusters).after history
    (∀ requests events, ∃ records,
      Consistent ((Pool.start world requests).follow events).world.store records) ∧
    ∀ (race : Race) (schedule : List Nat), race.contenders ≠ [] → race.Fair world →
      let pool := (Pool.start world race.requests).follow (schedule.map .advance)
      ((∀ index < race.contenders.length, 4 ≤ schedule.count index) → pool.Finished) ∧
      (pool.Finished → ∃ winner record, race.Decided winner record pool) := by
  intro world
  have sound : Sound world.store := backEnd.sound_after clusters history
  constructor
  · intro requests events
    exact ⟨_, consistent_of_sound (Pool.sound_follow sound events)⟩
  intro race schedule populated fair pool
  have startLength : (Pool.start world race.requests).requests.length = race.contenders.length := by
    simp only [Pool.start, Race.requests, List.length_map]
  have length : pool.requests.length = race.contenders.length :=
    (Pool.length_follow _ schedule).trans startLength
  constructor
  · intro turns
    have within : ∀ request ∈ (Pool.start world race.requests).requests, request.Within 4 := by
      intro request member
      simp only [Pool.start, Race.requests, List.map_map, List.mem_map] at member
      rcases member with ⟨contender, _, equal⟩
      exact equal ▸ contender.within_request race.name race.cluster
    exact Pool.finished_follow within (startLength ▸ turns)
  · intro finished
    have still := Race.open_start fair.valid fair.willing
    rcases still.follow fair sound schedule with stillOpen | ⟨winner, record, won⟩
    · refine absurd finished (stillOpen.not_finished ?_)
      rw [← List.length_pos_iff, length, List.length_pos_iff]
      exact populated
    · exact ⟨winner, record, won.decided length finished⟩

/-! Alice registers a name and gives it up again. Then she is after it once more, and so is Bob, who
asks twice. All three look it up before anybody enters it. -/

def Race.givenUp : List Operation := [
  .request (.register ⟨1, "alice", .general⟩ "team-x" 100 ⟨1, .epoch⟩),
  .request (.deregister ⟨1, "alice", .general⟩ 1)]

def Race.rematch : Race := ⟨"team-x", 100, [
  ⟨⟨1, "alice", .general⟩, ⟨2, .epoch⟩⟩,
  ⟨⟨2, "bob", .general⟩, ⟨3, .epoch⟩⟩,
  ⟨⟨2, "bob", .general⟩, ⟨4, .epoch⟩⟩]⟩

def Race.turns : List Nat := [0, 1, 2, 2, 1, 0, 1, 2, 0, 0, 1, 2]

theorem rematch_has_one_winner :
    let world := (BackEnd.database.start (.withCodes [100])).after Race.givenUp
    let pool := (Pool.start world Race.rematch.requests).follow (Race.turns.map .advance)
    ∃ winner record, Race.rematch.Decided winner record pool := by
  intro world
  have sound : Sound world.store := BackEnd.sound_after _ _ _
  have faultless : ∀ contender ∈ Race.rematch.contenders,
      ¬(contents world.store).Faults (contender.draft "team-x" 100) := by decide +kernel
  have accepts : ∀ contender ∈ Race.rematch.contenders,
      Accepts world.store (contender.draft "team-x" 100) :=
    fun contender member => accepts_of_faultless sound (faultless contender member)
  have willing : world.gateway.Willing 100 := ⟨by decide +kernel, by decide +kernel⟩
  have fair : Race.rematch.Fair world := ⟨by decide +kernel, by decide +kernel, willing, accepts⟩
  have race := (registration_race_has_one_winner .database (.withCodes [100]) Race.givenUp).2
    Race.rematch Race.turns (by decide) fair
  exact race.2 (race.1 (by decide))

end Tenancy
