import Tenancy.Proofs.History.Retry

/-! What an attempt does to the records, told by its outcome. The collaborators may fail at any
call, as long as they do not claim to have done what they did not do. -/

namespace Tenancy

open Readable Registry

/-! ## Collaborators that keep their word -/

inductive Inserts (draft : Draft) (before after : List Registration) :
    Except StoreError Registration → Prop
  | entered {record : Registration} (owner : record.owner = draft.owner)
      (added : after = before ++ [record]) : Inserts draft before after (.ok record)
  | refused {error : StoreError} (same : after = before) : Inserts draft before after (.error error)

/-- The one record with the id goes, from wherever it stood. -/
structure Drops (before after : List Registration) (record : Registration) : Prop where
  split : ∃ front back, before = front ++ record :: back ∧ after = front ++ back
  only : ∀ other ∈ before, other.id = record.id → other = record

inductive Deletes (id : Int64) (before after : List Registration) : Except StoreError Unit → Prop
  | dropped {record : Registration} (named : record.id = id) (drops : Drops before after record) :
      Deletes id before after (.ok ())
  | refused {error : StoreError} (same : after = before) : Deletes id before after (.error error)

/-- What is answered about the records is so, and they change by an insert or a delete that is
answered with success. -/
structure KeepsWord (answering : Answering ω) (records : ω → List Registration) (fit : ω → Prop) :
    Prop where
  stays : ∀ {world}, fit world → ∀ call, fit (answering call world).2
  reads : ∀ {world}, fit world → ∀ {call : Call}, call.Reads →
    records (answering call world).2 = records world
  finds : ∀ {world}, fit world → ∀ {id record},
    (answering (.findById id) world).1 = .ok (some record) → record ∈ records world ∧ record.id = id
  inserts : ∀ {world}, fit world → ∀ draft,
    Inserts draft (records world) (records (answering (.insert draft) world).2)
      (answering (.insert draft) world).1
  deletes : ∀ {world}, fit world → ∀ id,
    Deletes id (records world) (records (answering (.delete id) world).2)
      (answering (.delete id) world).1

/-! ## Attempts -/

/-- Nothing but reading. -/
inductive Procedure.Reads : Procedure α → Prop
  | done (value : α) : Reads (.done value)
  | ask {call : Call} {resume : call.Answer → Procedure α} (reads : call.Reads)
      (rest : ∀ answer, Reads (resume answer)) : Reads (.ask call resume)

namespace Procedure.Reads

theorem map {procedure : Procedure α} (reads : procedure.Reads) (transform : α → β) :
    (procedure.map transform).Reads := by
  induction reads with
  | done value => exact .done _
  | ask reads rest induction => exact .ask reads induction

theorem withGrants (user : Principal) {next : List Int64 → Attempt α}
    (reads : ∀ grants, (next grants).Reads) : (Registry.withGrants user next).Reads := by
  unfold Registry.withGrants
  split
  · exact reads []
  · refine .ask trivial fun
      | .error _ => .done _
      | .ok grants => reads grants

theorem withAll {next : List Registration → Attempt α}
    (reads : ∀ registrations, (next registrations).Reads) : (Registry.withAll next).Reads :=
  .ask trivial fun
    | .error _ => .done _
    | .ok registrations => reads registrations

theorem withVisible (user : Principal) {next : List Registration → Attempt α}
    (reads : ∀ visible, (next visible).Reads) : (Registry.withVisible user next).Reads :=
  withAll fun _ => withGrants user fun _ => reads _

theorem partition (user : Principal) : (Registry.partition user).Reads :=
  withAll fun _ => withGrants user fun _ => .done _

theorem withSubject (caller : Principal) (user : Int64) {next : Principal → Attempt α}
    (reads : ∀ subject, (next subject).Reads) : (Registry.withSubject caller user next).Reads := by
  unfold Registry.withSubject
  split
  · exact .ask trivial fun
      | .error _ => .done _
      | .ok none => .done _
      | .ok (some subject) => reads subject
  · exact .done _

theorem verifyUnique (name : String) (cluster : Int64) :
    (Registry.verifyUnique name cluster).Reads := by
  unfold Registry.verifyUnique
  split
  · exact .done _
  · exact .ask trivial fun
      | .error _ => .done _
      | .ok _ => .done _

theorem pagedList (limit : UInt32) (user : Principal) (search : Option String)
    (number size : UInt32) : (Registry.pagedList limit user search number size).Reads := by
  unfold Registry.pagedList
  split
  · exact .done _
  · exact withVisible user fun _ => .done _

theorem available (user : Principal) : (Registry.available user).Reads :=
  withVisible user fun _ => .done _

theorem authorizedFor (caller : Principal) (user : Int64) :
    (Registry.authorizedFor caller user).Reads :=
  withSubject caller user fun subject => (partition subject).map _

theorem unauthorizedFor (caller : Principal) (user : Int64) :
    (Registry.unauthorizedFor caller user).Reads :=
  withSubject caller user fun subject => (partition subject).map _

end Procedure.Reads

/-- How the records stand after an attempt to register. -/
inductive Registers (owner : Int64) (before after : List Registration) :
    Except RegistryError Registration → Prop
  | entered {record : Registration} (owned : record.owner = owner)
      (added : after = before ++ [record]) : Registers owner before after (.ok record)
  | failed {error : RegistryError} (same : after = before) :
      Registers owner before after (.error error)

/-- How the records stand after an attempt to de-register. -/
inductive Deregisters (caller : Principal) (id : Int64) (before after : List Registration) :
    Except RegistryError Unit → Prop
  | dropped {record : Registration} (named : record.id = id)
      (entitled : caller.isAdmin = true ∨ record.owner = caller.id)
      (drops : Drops before after record) : Deregisters caller id before after (.ok ())
  | failed {error : RegistryError} (same : after = before) :
      Deregisters caller id before after (.error error)

namespace KeepsWord

variable {answering : Answering ω} {records : ω → List Registration} {fit : ω → Prop} {world : ω}

theorem run_reads (keeps : KeepsWord answering records fit) {procedure : Procedure α}
    (reads : procedure.Reads) (fits : fit world) :
    records (procedure.run answering world).2 = records world := by
  induction reads generalizing world with
  | done value => rfl
  | @ask call resume reads rest induction =>
      exact (induction _ (keeps.stays fits call)).trans (keeps.reads fits reads)

/-- What the rest of a procedure does, the procedure does, when it starts by reading. -/
theorem run_ask (keeps : KeepsWord answering records fit)
    (effect : List Registration → List Registration → α → Prop) (fits : fit world) {call : Call}
    {resume : call.Answer → Procedure α} (reads : call.Reads)
    (rest : ∀ after, fit after → records after = records world →
      effect (records after) (records ((resume (answering call world).1).run answering after).2)
        ((resume (answering call world).1).run answering after).1) :
    effect (records world) (records ((Procedure.ask call resume).run answering world).2)
      ((Procedure.ask call resume).run answering world).1 := by
  have kept := keeps.reads fits reads
  rw [← kept]
  exact rest (answering call world).2 (keeps.stays fits call) kept

theorem run_enter (keeps : KeepsWord answering records fit) (fits : fit world) (caller : Principal)
    (name : String) (cluster : Int64) (stamp : Stamp) :
    Registers caller.id (records world)
      (records ((enter caller name cluster stamp).run answering world).2)
      ((enter caller name cluster stamp).run answering world).1 := by
  have inserts := keeps.inserts fits (draft caller name cluster stamp)
  simp only [enter, Procedure.run]
  generalize answering (.insert (draft caller name cluster stamp)) world = answered at inserts ⊢
  rcases answered with ⟨answer, after⟩
  cases inserts with
  | entered owner added => exact .entered owner added
  | @refused error same => cases error <;> exact .failed same

theorem run_register (keeps : KeepsWord answering records fit) (fits : fit world)
    (caller : Principal) (name : String) (cluster : Int64) (stamp : Stamp) :
    Registers caller.id (records world)
      (records ((register caller name cluster stamp).run answering world).2)
      ((register caller name cluster stamp).run answering world).1 := by
  unfold register
  cases Name.check name with
  | error fault => exact .failed rfl
  | ok _ =>
      refine keeps.run_ask (Registers caller.id) fits trivial ?_
      intro looked looksFit _
      rcases (answering (.findByPair name cluster) world).1 with error | _ | record
      · exact .failed rfl
      · refine keeps.run_ask (Registers caller.id) looksFit trivial ?_
        intro asked asksFit _
        rcases (answering (.isPresent cluster name) looked).1 with error | _ | _
        · exact .failed rfl
        · refine keeps.run_ask (Registers caller.id) asksFit trivial ?_
          intro created createsFit _
          rcases (answering (.create cluster name) asked).1 with error | _
          · exact .failed rfl
          · exact keeps.run_enter createsFit caller name cluster stamp
        · exact keeps.run_enter asksFit caller name cluster stamp
      · exact .failed rfl

theorem run_delete (keeps : KeepsWord answering records fit) (fits : fit world) {caller : Principal}
    {id : Int64} {record : Registration} (member : record ∈ records world) (named : record.id = id)
    (entitled : canManage caller record = true) :
    let attempt : Attempt Unit := .ask (.delete id) fun
      | .error error => .fail error.toRegistry
      | .ok () => .succeed ()
    Deregisters caller id (records world) (records (attempt.run answering world).2)
      (attempt.run answering world).1 := by
  have deletes := keeps.deletes fits id
  simp only [Procedure.run]
  generalize answering (.delete id) world = answered at deletes ⊢
  rcases answered with ⟨answer, after⟩
  cases deletes with
  | refused same => exact .failed same
  | @dropped dropped droppedNamed drops =>
      have same : record = dropped := drops.only record member (named.trans droppedNamed.symm)
      rw [canManage, Bool.or_eq_true, beq_iff_eq] at entitled
      exact .dropped droppedNamed (same ▸ entitled) drops

theorem run_deregister (keeps : KeepsWord answering records fit) (fits : fit world)
    (caller : Principal) (id : Int64) :
    Deregisters caller id (records world)
      (records ((deregister caller id).run answering world).2)
      ((deregister caller id).run answering world).1 := by
  unfold deregister
  refine keeps.run_ask (Deregisters caller id) fits trivial ?_
  intro looked looksFit same
  cases answered : (answering (.findById id) world).1 with
  | error error => exact .failed rfl
  | ok found =>
      cases found with
      | none => exact .failed rfl
      | some record =>
          rcases keeps.finds fits answered with ⟨member, named⟩
          rw [← same] at member
          simp only
          split
          · next entitled =>
              refine keeps.run_ask (Deregisters caller id) looksFit trivial ?_
              intro asked asksFit same
              rw [← same] at member
              rcases (answering (.hasActive id) looked).1 with error | _ | _
              · exact .failed rfl
              · exact keeps.run_delete asksFit member named entitled
              · exact .failed rfl
          · exact .failed rfl

end KeepsWord

/-! ## Stores that may fail

Every lawful store keeps its word, and so it does when calls get planned outcomes in place of their
own, save for a delete that is said to be done and is not. -/

/-- No outcome is planned that is not so. -/
def Honest (planned : List (CallKind × Outcome)) : Prop :=
  (.delete, .miss) ∉ planned

theorem drops_of_removes {before after : Contents} {id : Int64} (ordered : before.Ordered)
    (removes : before.Removes after id) :
    ∃ record, record.id = id ∧ Drops before.records after.records record := by
  rcases removes.present with ⟨record, member, named⟩
  have only (other : Registration) (present : other ∈ before.records)
      (same : other.id = record.id) : other = record :=
    ordered.id_injective other present record member same
  rcases List.append_of_mem member with ⟨front, back, split⟩
  refine ⟨record, named, ⟨front, back, split, ?_⟩, only⟩
  have once := ordered.idsOnce
  rw [split, List.map_append, List.map_cons, List.nodup_append, List.nodup_cons] at once
  have others (side : List Registration) (apart : ∀ other ∈ side, other.id ≠ record.id) :
      side.filter (·.id != id) = side := by
    rw [List.filter_eq_self]
    intro other member
    rw [bne_iff_ne, ← named]
    exact apart other member
  have rest : after.records = before.records.filter (·.id != id) := by
    rw [removes.rest]
  rw [rest, split, List.filter_append, List.filter_cons_of_neg (by simp [named])]
  rw [others front, others back]
  · intro other member same
    exact once.2.1.1 (same ▸ List.mem_map_of_mem member)
  · intro other member
    exact once.2.2 other.id (List.mem_map_of_mem member) record.id List.mem_cons_self

theorem World.runFaulty_fst [Store σ] [Gateway γ] (world : World σ γ)
    (planned : List (CallKind × Outcome)) (procedure : Procedure α) :
    (world.runFaulty planned procedure).1 =
      (procedure.run (Faulty.answering World.answering) ⟨world, planned⟩).1 :=
  rfl

theorem Faulty.exists_planned {faulty : Faulty ω} {call : Call} {answer : call.Answer}
    (planned : faulty.planned? call = some answer) :
    ∃ outcome, (call.kind, outcome) ∈ faulty.planned ∧ outcome.answer? call = some answer := by
  rcases Option.bind_eq_some_iff.mp planned with ⟨⟨kind, outcome⟩, found, answers⟩
  have same : kind = call.kind := by simpa using List.find?_some found
  exact ⟨outcome, same ▸ List.mem_of_find?_eq_some found, answers⟩

section

variable [Store σ] [Readable σ] [Gateway γ]

/-- What is registered in the store that calls are made to. -/
def Faulty.records (faulty : Faulty (World σ γ)) : List Registration :=
  (contents faulty.world.store).records

structure Faulty.Fit (faulty : Faulty (World σ γ)) : Prop where
  sound : Sound faulty.world.store
  honest : Honest faulty.planned

variable [LawfulStore σ] {faulty : Faulty (World σ γ)}

theorem Faulty.fit_answering (fit : faulty.Fit) (call : Call) :
    (Faulty.answering World.answering call faulty).2.Fit := by
  simp only [Faulty.answering]
  cases faulty.planned? call with
  | some answer =>
      exact ⟨fit.sound, fun dishonest => fit.honest (List.mem_of_mem_eraseP dishonest)⟩
  | none => exact ⟨World.sound_answering fit.sound call, fit.honest⟩

theorem Faulty.inserts (fit : faulty.Fit) (draft : Draft) :
    Inserts draft faulty.records
      (Faulty.answering World.answering (.insert draft) faulty).2.records
      (Faulty.answering World.answering (.insert draft) faulty).1 := by
  simp only [Faulty.answering]
  cases planned : faulty.planned? (.insert draft) with
  | some answer =>
      rcases Faulty.exists_planned planned with ⟨outcome, -, answers⟩
      cases outcome with
      | storeFails error =>
          cases answers
          exact .refused rfl
      | gatewayFails | miss => cases answers
  | none =>
      have outcome := LawfulStore.insert fit.sound draft
      simp only [World.answering]
      generalize Store.insert faulty.world.store draft = result at outcome
      cases outcome with
      | conflict | failed => exact .refused rfl
      | entered record next nextSound enters =>
          refine .entered enters.owner ?_
          simp only [Faulty.records]
          rw [enters.rest]

theorem Faulty.deletes (fit : faulty.Fit) (id : Int64) :
    Deletes id faulty.records (Faulty.answering World.answering (.delete id) faulty).2.records
      (Faulty.answering World.answering (.delete id) faulty).1 := by
  simp only [Faulty.answering]
  cases planned : faulty.planned? (.delete id) with
  | some answer =>
      rcases Faulty.exists_planned planned with ⟨outcome, member, answers⟩
      cases outcome with
      | storeFails error =>
          cases answers
          exact .refused rfl
      | gatewayFails => cases answers
      | miss => exact absurd member fit.honest
  | none =>
      have outcome := LawfulStore.delete fit.sound id
      simp only [World.answering]
      generalize Store.delete faulty.world.store id = result at outcome
      cases outcome with
      | missing => exact .refused rfl
      | removed next nextSound removes =>
          rcases drops_of_removes (LawfulStore.ordered fit.sound) removes with
            ⟨record, named, drops⟩
          exact .dropped named drops

theorem Faulty.finds (fit : faulty.Fit) {id : Int64} {record : Registration}
    (found : (Faulty.answering World.answering (.findById id) faulty).1 = .ok (some record)) :
    record ∈ faulty.records ∧ record.id = id := by
  simp only [Faulty.answering] at found
  cases planned : faulty.planned? (.findById id) with
  | some answer =>
      rcases Faulty.exists_planned planned with ⟨outcome, -, answers⟩
      rw [planned] at found
      cases outcome <;> cases answers <;> cases found
  | none =>
      rw [planned] at found
      simp only [World.answering, LawfulStore.findById fit.sound, Except.ok.injEq] at found
      exact ((LawfulStore.ordered fit.sound).find?_id id record).mp found

theorem keepsWord_faulty :
    KeepsWord (Faulty.answering World.answering) (Faulty.records (σ := σ) (γ := γ)) Faulty.Fit where
  stays := Faulty.fit_answering
  reads {faulty} fit call reads := by
    rcases World.faulty_answering call faulty with idle | acted
    · rw [Faulty.records, idle, Faulty.records]
    · rw [Faulty.records, acted, World.store_answering reads, Faulty.records]
  finds := Faulty.finds
  inserts := Faulty.inserts
  deletes := Faulty.deletes

end

end Tenancy
