import Tenancy.Proofs.Registry.Registering

/-! Asking whether a name is free tells what registering it would come to. Both check the name and
look the pair up in the same way; past that only the clusters, or a store that breaks, can stop a
registration. -/

namespace Tenancy

open Readable Registry

/-! ## Inserts of a free name -/

theorem Memory.insert_of_free {memory : Memory} {draft : Draft}
    (free : memory.findByPair draft.name draft.cluster = none) (text : String) :
    (memory.insert draft).1 ≠ .error (.conflict text) := by
  have unused : memory.rows.any (·.isFor draft.name draft.cluster) = false := by
    rw [List.any_eq_false]
    exact List.find?_eq_none.mp free
  rw [insert, unused, if_neg Bool.false_ne_true]
  cases nextId? memory.lastId <;> intro same <;> cases same

namespace Database

/-- The code may be in use all the same. -/
theorem clash?_of_free {table : NamespaceTable} {row : NewRow}
    (free : table.rows.any (·.isFor row.name row.cluster) = false) :
    table.clash? row = none ∨ table.clash? row = some .code := by
  rw [NamespaceTable.clash?, free, if_neg Bool.false_ne_true]
  split
  · exact .inr rfl
  · exact .inl rfl

theorem insert_of_free {database : Database} {draft : Draft}
    (free : database.findByPair draft.name draft.cluster = .ok none) (text : String) :
    (database.insert draft).1 ≠ .error (.conflict text) := by
  rw [findByPair, queryNamespaces] at free
  cases there : database.namespaces with
  | none =>
      rw [there] at free
      cases free
  | some table =>
      rw [there] at free
      simp only [present, Except.ok.injEq, Option.map_eq_none_iff, List.find?_eq_none] at free
      have clash : table.clash? (.ofDraft draft) = none ∨
          table.clash? (.ofDraft draft) = some .code := clash?_of_free (List.any_eq_false.mpr free)
      simp only [insert, insertRow, there, present, bind, Except.bind, NamespaceTable.insert]
      rcases clash with clash | clash
      · rw [clash]
        cases nextId? table.sequence <;> intro same <;> cases same
      · rw [clash]
        intro same
        cases same

end Database

theorem BackEnd.insert_of_free (backEnd : BackEnd) {store : backEnd.State} {draft : Draft}
    (free : Store.findByPair store draft.name draft.cluster = .ok none) (text : String) :
    (Store.insert store draft).1 ≠ .error (.conflict text) := by
  cases backEnd with
  | memory => exact Memory.insert_of_free (Except.ok.inj free) text
  | database => exact Database.insert_of_free free text

/-! ## Calls under planned faults -/

section

variable [Store σ]

/-- The store answers the lookup of a pair, and no insert is lost to one that came between. -/
structure Calm (store : σ) (planned : List (CallKind × Outcome)) (name : String)
    (cluster : Int64) : Prop where
  answers : ∃ found, Store.findByPair store name cluster = .ok found
  lookups : ∀ entry ∈ planned, entry.1 ≠ .findByPair
  inserts : ∀ text, (.insert, .storeFails (.conflict text)) ∉ planned

/-- The store is as it was, and still no insert is going to be lost. -/
structure Faulty.Undisputed (store : σ) (faulty : Faulty (World σ γ)) : Prop where
  store : faulty.world.store = store
  inserts : ∀ text, (.insert, .storeFails (.conflict text)) ∉ faulty.planned

namespace Faulty

variable [Gateway γ] {store : σ} {faulty : Faulty (World σ γ)}

theorem answering_of_unplanned {call : Call}
    (unplanned : ∀ entry ∈ faulty.planned, entry.1 ≠ call.kind) :
    answering World.answering call faulty =
      ((World.answering call faulty.world).1,
        { faulty with world := (World.answering call faulty.world).2 }) := by
  have nothing : faulty.planned.find? (·.1 = call.kind) = none := by
    rw [List.find?_eq_none]
    intro entry member
    simpa using unplanned entry member
  have own : faulty.planned? call = none := by
    rw [planned?, nothing]
    rfl
  simp only [answering, own]

theorem Undisputed.kept (undisputed : faulty.Undisputed store) {call : Call}
    (reads : call.Reads) :
    (answering World.answering call faulty).2.Undisputed store := by
  simp only [Faulty.answering]
  cases faulty.planned? call with
  | none => exact ⟨(World.store_answering reads _).trans undisputed.store, undisputed.inserts⟩
  | some answer =>
      refine ⟨undisputed.store, ?_⟩
      intro text member
      exact undisputed.inserts text (List.mem_of_mem_eraseP member)

theorem Undisputed.insertion (undisputed : faulty.Undisputed store) {draft : Draft}
    (free : ∀ text, (Store.insert store draft).1 ≠ .error (.conflict text)) (text : String) :
    (answering World.answering (.insert draft) faulty).1 ≠ .error (.conflict text) := by
  simp only [Faulty.answering]
  cases planned : faulty.planned? (.insert draft) with
  | none =>
      simp only [World.answering, undisputed.store]
      exact free text
  | some answer =>
      rcases Option.bind_eq_some_iff.mp planned with ⟨⟨kind, outcome⟩, found, answers⟩
      have same := List.find?_some found
      have member := List.mem_of_find?_eq_some found
      rw [decide_eq_true_eq] at same
      cases same
      rintro rfl
      -- Of what can be planned only an error of the store answers an insert.
      cases outcome with
      | storeFails error =>
          cases answers
          exact undisputed.inserts text member
      | gatewayFails | miss => cases answers

end Faulty

end

/-! ## What a registration comes to -/

/-- What a registration can come to that has found its name free. -/
inductive Passes : Except RegistryError Registration → Prop
  | registered (record : Registration) : Passes (.ok record)
  | notFound (text : String) : Passes (.error (.notFound text))
  | rejected (text : String) : Passes (.error (.externalCreateFailure text))
  | broken (text : String) : Passes (.error (.store text))

theorem passes_gateway (error : GatewayError) : Passes (.error error.toRegistry) := by
  cases error with
  | clusterNotFound | unreachable => exact .notFound _
  | createFailed text => exact .rejected text

theorem passes_entryAnswer {answer : Except StoreError Registration}
    (undisputed : ∀ text, answer ≠ .error (.conflict text)) (name : String) (cluster : Int64) :
    Passes (entryAnswer name cluster answer) := by
  rcases answer with error | record
  · cases error with
    | conflict text => exact absurd rfl (undisputed text)
    | notFound id => exact .notFound _
    | backend text => exact .broken text
  · exact .registered record

section

variable [Store σ] [Gateway γ] {store : σ} {faulty : Faulty (World σ γ)} {caller : Principal}
  {name : String} {cluster : Int64} {stamp : Stamp}

theorem passes_enter (undisputed : faulty.Undisputed store)
    (free : ∀ text, (Store.insert store (draft caller name cluster stamp)).1 ≠
      .error (.conflict text)) :
    Passes ((enter caller name cluster stamp).run (Faulty.answering World.answering) faulty).1 := by
  rw [(enter_answered _ caller name cluster stamp faulty).1]
  exact passes_entryAnswer (undisputed.insertion free) name cluster

theorem passes_provide (undisputed : faulty.Undisputed store)
    (free : ∀ text, (Store.insert store (draft caller name cluster stamp)).1 ≠
      .error (.conflict text)) :
    let attempt : Attempt Registration := .ask (.isPresent cluster name) fun
      | .error error => .fail error.toRegistry
      | .ok true => enter caller name cluster stamp
      | .ok false =>
          .ask (.create cluster name) fun
            | .error error => .fail error.toRegistry
            | .ok () => enter caller name cluster stamp
    Passes (attempt.run (Faulty.answering World.answering) faulty).1 := by
  -- The store is what it was at the lookup, since the clusters are asked and told past it.
  have asked : Faulty.Undisputed store
      (Faulty.answering World.answering (.isPresent cluster name) faulty).2 :=
    undisputed.kept trivial
  simp only [Procedure.run]
  generalize Faulty.answering World.answering (.isPresent cluster name) faulty = answered at asked ⊢
  rcases answered with ⟨error | present, next⟩
  · exact passes_gateway error
  · cases present with
    | true => exact passes_enter asked free
    | false =>
        have created : Faulty.Undisputed store
            (Faulty.answering World.answering (.create cluster name) next).2 :=
          asked.kept trivial
        simp only [Procedure.run]
        generalize Faulty.answering World.answering (.create cluster name) next = answered
          at created ⊢
        rcases answered with ⟨error | _, last⟩
        · exact passes_gateway error
        · exact passes_enter created free

end

/-! ## The prediction -/

/-- What the answer to whether a name is free tells of registering it. -/
structure Foretells (verified : Except RegistryError Bool)
    (registered : Except RegistryError Registration) : Prop where
  invalid : ∀ text, verified = .error (.invalidArgument text) ↔
    registered = .error (.invalidArgument text)
  taken : verified = .ok false ↔ ∃ text, registered = .error (.conflict text)
  free : verified = .ok true ↔ (∃ record, registered = .ok record) ∨
    (∃ text, registered = .error (.notFound text)) ∨
    (∃ text, registered = .error (.externalCreateFailure text)) ∨
    ∃ text, registered = .error (.store text)

namespace Foretells

theorem of_fault (fault : ValidationFault) :
    Foretells (.error fault.toRegistry) (.error fault.toRegistry) := by
  have invalid : fault.toRegistry = .invalidArgument fault.message := rfl
  rw [invalid]
  constructor <;> simp

theorem of_registered (name : String) (cluster : Int64) :
    Foretells (.ok false) (.error (alreadyRegistered name cluster)) := by
  constructor <;> simp [alreadyRegistered]

theorem of_passes {registered : Except RegistryError Registration} (passes : Passes registered) :
    Foretells (.ok true) registered := by
  cases passes <;> constructor <;> simp

end Foretells

section

variable [Store σ] [Gateway γ] {store : σ} {planned : List (CallKind × Outcome)} {name : String}
  {cluster : Int64} {found : Option Registration}

/-- How the answer of the store to a lookup is passed on. -/
def verifyAnswer (name : String) (found : Option Registration) : Except RegistryError Bool :=
  match Name.check name with
  | .error fault => .error fault.toRegistry
  | .ok () => .ok found.isNone

theorem Calm.lookup (calm : Calm store planned name cluster) (gateway : γ) :
    Faulty.answering World.answering (.findByPair name cluster) ⟨⟨store, gateway⟩, planned⟩ =
      (Store.findByPair store name cluster, ⟨⟨store, gateway⟩, planned⟩) :=
  Faulty.answering_of_unplanned calm.lookups

theorem Calm.run_verifyUnique (calm : Calm store planned name cluster)
    (answers : Store.findByPair store name cluster = .ok found) (gateway : γ) :
    (verifyUnique name cluster).run (Faulty.answering World.answering)
        ⟨⟨store, gateway⟩, planned⟩ =
      (verifyAnswer name found, ⟨⟨store, gateway⟩, planned⟩) := by
  unfold verifyUnique verifyAnswer
  cases Name.check name with
  | error fault => rfl
  | ok _ =>
      simp only [Procedure.run, calm.lookup, answers]
      rfl

theorem Calm.foretells (calm : Calm store planned name cluster)
    (answers : Store.findByPair store name cluster = .ok found) (gateway : γ) {caller : Principal}
    {stamp : Stamp}
    (free : found = none → ∀ text, (Store.insert store (draft caller name cluster stamp)).1 ≠
      .error (.conflict text)) :
    Foretells (verifyAnswer name found)
      ((register caller name cluster stamp).run (Faulty.answering World.answering)
        ⟨⟨store, gateway⟩, planned⟩).1 := by
  have undisputed : Faulty.Undisputed store ⟨⟨store, gateway⟩, planned⟩ := ⟨rfl, calm.inserts⟩
  unfold register verifyAnswer
  cases Name.check name with
  | error fault => exact .of_fault fault
  | ok _ =>
      simp only [Procedure.run, calm.lookup, answers]
      cases found with
      | some record => exact .of_registered name cluster
      | none => exact .of_passes (passes_provide undisputed (free rfl))

end

/-! ## The life of a record -/

theorem valid_of_registered [Store σ] [Gateway γ] {world : World σ γ} {caller : Principal}
    {name : String} {cluster : Int64} {stamp : Stamp} {record : Registration}
    (ok : (world.run (register caller name cluster stamp)).1 = .ok record) :
    Name.check name = .ok () := by
  rw [run_register] at ok
  cases checked : Name.check name with
  | error fault =>
      rw [checked] at ok
      cases ok
  | ok _ => rfl

section

variable [Store σ] [Readable σ] [LawfulStore σ] {world : World σ Clusters}

/-- An operation that says it deleted a record did. -/
theorem removes_of_deleted (sound : Sound world.store) {operation : Operation} {id : Int64}
    (deleted : operation.deleted? (operation.perform world).1 = some id) :
    (contents world.store).Removes (contents (operation.perform world).2.store) id := by
  cases operation with
  | request asked =>
      cases asked with
      | deregister caller other =>
          simp only [Operation.perform, RegistryRequest.procedure, World.run_map] at deleted ⊢
          rcases deregister_cases sound caller other with ⟨error, ran⟩ | ⟨next, ran, _, removes⟩
          · rw [ran] at deleted
            cases deleted
          · rw [ran] at deleted ⊢
            cases deleted
            exact removes
      | _ => cases deleted
  | delete other =>
      have outcome := LawfulStore.delete sound other
      simp only [Operation.perform] at deleted ⊢
      generalize Store.delete world.store other = result at outcome deleted ⊢
      cases outcome with
      | missing => cases deleted
      | removed next _ removes =>
          cases deleted
          exact removes
  | _ => cases deleted

theorem mem_of_registered (sound : Sound world.store) {caller : Principal} {name : String}
    {cluster : Int64} {stamp : Stamp} {record : Registration}
    (ok : (world.run (register caller name cluster stamp)).1 = .ok record) :
    record ∈ (contents (world.run (register caller name cluster stamp)).2.store).records ∧
      record.pair = (name, cluster) := by
  rcases register_cases sound caller name cluster stamp with
    ⟨error, gateway, ran⟩ | ⟨entered, next, gateway, ran, _, enters⟩
  · rw [ran] at ok
    cases ok
  · rw [ran] at ok ⊢
    cases ok
    refine ⟨?_, enters.pair⟩
    rw [enters.rest]
    exact List.mem_append_right _ (List.mem_singleton_self record)

end

/-- Over either back end, with any clusters behind it, the question changes nothing, is answered
from the records alone, and foretells what a registration comes to. From a registration on the name
is taken until the record is deleted, whatever else is done, and then it is free again. -/
theorem verification_foretells_registration (backEnd : BackEnd) (name : String) (cluster : Int64) :
    (∀ (store : backEnd.State) planned, Calm store planned name cluster →
      ∃ answer, ∀ {γ : Type} [Gateway γ] (gateway : γ),
        let state : Faulty (World backEnd.State γ) := ⟨⟨store, gateway⟩, planned⟩
        (verifyUnique name cluster).run (Faulty.answering World.answering) state =
          (answer, state) ∧
        ∀ caller stamp, Foretells answer
          ((register caller name cluster stamp).run (Faulty.answering World.answering) state).1) ∧
    ∀ clusters history caller stamp record,
      let world := (backEnd.start clusters).after history
      let ran := world.run (register caller name cluster stamp)
      ran.1 = .ok record → ∀ later, record.id ∉ ran.2.deleted later →
        ((ran.2.after later).run (verifyUnique name cluster)).1 = .ok false ∧
        ∀ operation : Operation,
          operation.deleted? (operation.perform (ran.2.after later)).1 = some record.id →
          ((operation.perform (ran.2.after later)).2.run (verifyUnique name cluster)).1 =
            .ok true := by
  constructor
  · intro store planned calm
    rcases calm.answers with ⟨found, answers⟩
    refine ⟨verifyAnswer name found, ?_⟩
    intro γ _ gateway state
    refine ⟨calm.run_verifyUnique answers gateway, ?_⟩
    intro caller stamp
    refine calm.foretells answers gateway ?_
    rintro rfl
    exact backEnd.insert_of_free answers
  · intro clusters history caller stamp record world ran ok later kept
    have sound : Sound world.store := backEnd.sound_after clusters history
    have soundRan : Sound ran.2.store := World.sound_run sound _
    have soundLater : Sound (ran.2.after later).store := World.sound_after soundRan later
    have valid := valid_of_registered ok
    rcases mem_of_registered sound ok with ⟨entered, pair⟩
    have member := mem_after soundRan entered kept
    refine ⟨verifyUnique_of_registered soundLater valid
      ⟨record, member, Registration.isFor_iff.mpr pair⟩, ?_⟩
    intro operation deleted
    have free := (removes_of_deleted soundLater deleted).not_registered
      (LawfulStore.ordered soundLater) member
    cases pair
    exact verifyUnique_of_free (change_perform soundLater operation).1 valid free

/-- A full disk is no clash. When alice comes back the name is hers until she gives it up, whatever
becomes of bob's. -/
theorem team_x_is_free_again :
    let alice : Principal := ⟨1, "alice", .general⟩
    let bob : Principal := ⟨2, "bob", .general⟩
    let attempt := register alice "team-x" 100 ⟨1, .epoch⟩
    let start := BackEnd.database.start (.withCodes [100])
    let full : List (CallKind × Outcome) := [(.insert, .storeFails (.backend "disk full"))]
    let ran := (start.after []).run attempt
    let others : List Operation :=
      [.request (.register bob "team-y" 100 ⟨2, .epoch⟩), .request (.deregister bob 2)]
    let later := ran.2.after others
    Calm start.store full "team-x" 100 ∧
      Foretells (.ok true) (attempt.run (Faulty.answering World.answering) ⟨start, full⟩).1 ∧
      ran.1 = .ok ⟨1, 1, "team-x", 100, 1, .epoch, .epoch⟩ ∧
      (later.run (verifyUnique "team-x" 100)).1 = .ok false ∧
      (((Operation.request (.deregister alice 1)).perform later).2.run
        (verifyUnique "team-x" 100)).1 = .ok true := by
  intro alice bob attempt start full ran others later
  have general := verification_foretells_registration .database "team-x" 100
  have calm : Calm start.store full "team-x" 100 := by
    refine ⟨⟨none, by decide +kernel⟩, ?_, ?_⟩ <;> simp [full]
  have asked : ((verifyUnique "team-x" 100).run (Faulty.answering World.answering)
      (⟨start, full⟩ : Faulty (World BackEnd.database.State Clusters))).1 = .ok true := by
    decide +kernel
  rcases general.1 start.store full calm with ⟨answer, told⟩
  rcases told start.gateway with ⟨verified, foretells⟩
  have free : answer = .ok true := (congrArg Prod.fst verified).symm.trans asked
  have ok : ran.1 = .ok ⟨1, 1, "team-x", 100, 1, .epoch, .epoch⟩ := by decide +kernel
  rcases general.2 (.withCodes [100]) [] alice ⟨1, .epoch⟩ _ ok others (by decide +kernel) with
    ⟨taken, again⟩
  exact ⟨calm, free ▸ foretells alice ⟨1, .epoch⟩, ok, taken,
    again (.request (.deregister alice 1)) (by decide +kernel)⟩

end Tenancy
