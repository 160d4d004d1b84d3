import Tenancy.Proofs.History.Retry

/-! One registration from end to end, over clusters kept in memory. It goes out by one of a few
exits, in a fixed order, and each tells what was asked of the store and the clusters and what became
of them. The store may fail it, and others may register meanwhile. -/

namespace Tenancy

open Readable Registry

/-! ## Circumstances -/

/-- What may come over a registration that is under way. -/
structure Circumstances where
  /-- What the lookup is answered with, in place of what the store would answer. -/
  lookupFails : Option StoreError
  insertFails : Option StoreError
  /-- What others enter between the lookup and the insert. -/
  others : List Draft

/-- A store in which others have entered what they could of these drafts. -/
def joined [Store σ] (store : σ) : List Draft → σ
  | [] => store
  | draft :: rest => joined (Store.insert store draft).2 rest

namespace Circumstances

def insertion [Store σ] (circumstances : Circumstances) (store : σ) (draft : Draft) :
    Except StoreError Registration × σ :=
  match circumstances.insertFails with
  | some error => (.error error, joined store circumstances.others)
  | none => Store.insert (joined store circumstances.others) draft

def answering [Store σ] [Gateway γ] (circumstances : Circumstances) : Answering (World σ γ)
  | .findByPair name cluster, world =>
      match circumstances.lookupFails with
      | some error => (.error error, world)
      | none => World.answering (.findByPair name cluster) world
  | .insert draft, world =>
      let (answer, store) := circumstances.insertion world.store draft
      (answer, { world with store })
  | call, world => World.answering call world

end Circumstances

/-! ### Inserts -/

section

variable [Store σ] [Readable σ] [LawfulStore σ] {store : σ}

theorem sound_joined (sound : Sound store) (others : List Draft) : Sound (joined store others) := by
  induction others generalizing store with
  | nil => exact sound
  | cons draft rest induction => exact induction ((LawfulStore.insert sound draft).sound sound)

/-- Others add to what is there, each record in the name of a draft of theirs. -/
theorem records_joined (sound : Sound store) (others : List Draft) :
    ∃ arrived, (contents (joined store others)).records = (contents store).records ++ arrived ∧
      ∀ record ∈ arrived, ∃ draft ∈ others,
        record.pair = (draft.name, draft.cluster) ∧ record.owner = draft.owner := by
  induction others generalizing store with
  | nil => exact ⟨[], (List.append_nil _).symm, fun _ member => absurd member List.not_mem_nil⟩
  | cons first rest induction =>
      have outcome := LawfulStore.insert sound first
      rcases induction (outcome.sound sound) with ⟨arrived, records, drafted⟩
      have later (record : Registration) (member : record ∈ arrived) :
          ∃ draft ∈ first :: rest,
            record.pair = (draft.name, draft.cluster) ∧ record.owner = draft.owner := by
        rcases drafted record member with ⟨draft, among, named⟩
        exact ⟨draft, List.mem_cons_of_mem first among, named⟩
      rw [joined]
      generalize Store.insert store first = result at outcome records ⊢
      cases outcome with
      | conflict | failed => exact ⟨arrived, records, later⟩
      | entered record next _ enters =>
          refine ⟨record :: arrived, ?_, ?_⟩
          · rw [records, enters.rest]
            simp
          · intro other member
            rcases List.mem_cons.mp member with rfl | member
            · exact ⟨first, List.mem_cons_self, enters.pair, enters.owner⟩
            · exact later other member

theorem insertion_unplanned (sound : Sound store) {circumstances : Circumstances}
    (unplanned : circumstances.insertFails = none) (draft : Draft) :
    InsertOutcome (joined store circumstances.others) draft
      (circumstances.insertion store draft) := by
  simp only [Circumstances.insertion, unplanned]
  exact LawfulStore.insert (sound_joined sound circumstances.others) draft

/-- An insert fails and leaves what others entered, or enters one record after theirs. -/
theorem insertion_cases (sound : Sound store) (circumstances : Circumstances) (draft : Draft) :
    let found := joined store circumstances.others
    (∃ error, circumstances.insertion store draft = (.error error, found)) ∨
    ∃ record next, circumstances.insertion store draft = (.ok record, next) ∧
      (contents found).Enters (contents next) draft record := by
  cases planned : circumstances.insertFails with
  | some error => exact .inl ⟨error, by simp only [Circumstances.insertion, planned]⟩
  | none =>
      have outcome := insertion_unplanned sound planned draft
      generalize circumstances.insertion store draft = result at outcome ⊢
      cases outcome with
      | conflict | failed => exact .inl ⟨_, rfl⟩
      | entered record next _ enters => exact .inr ⟨record, next, rfl, enters⟩

end

/-- Whatever answers the insert, it is asked once, and its answer is passed on. -/
theorem enter_answered (answering : Answering ω) (caller : Principal) (name : String)
    (cluster : Int64) (stamp : Stamp) (before : ω) :
    let attempt := enter caller name cluster stamp
    let inserted := answering (.insert (draft caller name cluster stamp)) before
    attempt.run answering before = (entryAnswer name cluster inserted.1, inserted.2) ∧
      attempt.calls answering before = [.insert (draft caller name cluster stamp)] := by
  simp only [enter, Procedure.run, Procedure.calls]
  generalize answering (.insert (draft caller name cluster stamp)) before = inserted
  rcases inserted with ⟨error | record, after⟩
  · cases error <;> exact ⟨rfl, rfl⟩
  · exact ⟨rfl, rfl⟩

/-! ## Exits -/

section

variable (circumstances : Circumstances) (caller : Principal) (name : String) (cluster : Int64)
  (stamp : Stamp)

/-- The name can be registered, and the store says so. -/
@[grind cases]
structure Free [Readable σ] (world : World σ γ) : Prop where
  valid : Name.check name = .ok ()
  answered : circumstances.lookupFails = none
  free : ¬(contents world.store).Registered name cluster

/-- The name is on the cluster when the insert is made, with the calls that took. -/
@[grind cases]
inductive Provided (before : Clusters) : List Call → Clusters → Prop
  | present (known : cluster ∈ before.known) (there : (cluster, name) ∈ before.present) :
      Provided before [.isPresent cluster name] before
  | created (known : cluster ∈ before.known) (absent : (cluster, name) ∉ before.present)
      (unplanned : before.failNext = false) :
      Provided before [.isPresent cluster name, .create cluster name]
        (before.create cluster name).2

theorem Provided.there {name : String} {cluster : Int64} {before after : Clusters}
    {calls : List Call} (provided : Provided name cluster before calls after) :
    (cluster, name) ∈ after.present := by
  cases provided with
  | present _ there => exact there
  | created known _ unplanned =>
      have created : before.create cluster name = (.ok (), (before.create cluster name).2) := by
        simp only [Clusters.create, unplanned, if_pos known, Bool.false_eq_true, if_false]
      exact (Clusters.isPresent_iff.mp (Clusters.isPresent_of_create created)).2

/-- How a create that is refused is reported. -/
def rejected (name : String) (cluster : Int64) : RegistryError :=
  .externalCreateFailure
    ("cluster " ++ Text.decimal cluster.toInt ++ " rejected namespace " ++ name)

/-- The ways out of a registration, with the outcome, the calls and the world left. -/
inductive Exit [Store σ] [Readable σ] (world : World σ Clusters) :
    Except RegistryError Registration → List Call → World σ Clusters → Prop
  | invalid {fault : ValidationFault} (refused : Name.check name = .error fault) :
      Exit world (.error fault.toRegistry) [] world
  | unanswered {error : StoreError} (valid : Name.check name = .ok ())
      (fails : circumstances.lookupFails = some error) :
      Exit world (.error error.toRegistry) [.findByPair name cluster] world
  | registered (valid : Name.check name = .ok ()) (answered : circumstances.lookupFails = none)
      (taken : (contents world.store).Registered name cluster) :
      Exit world (.error (alreadyRegistered name cluster)) [.findByPair name cluster] world
  | unknown (free : Free circumstances name cluster world)
      (unknown : cluster ∉ world.gateway.known) :
      Exit world (.error (GatewayError.clusterNotFound cluster).toRegistry)
        [.findByPair name cluster, .isPresent cluster name] world
  | notCreated (free : Free circumstances name cluster world)
      (known : cluster ∈ world.gateway.known)
      (absent : (cluster, name) ∉ world.gateway.present)
      (planned : world.gateway.failNext = true) :
      Exit world (.error (rejected name cluster))
        [.findByPair name cluster, .isPresent cluster name, .create cluster name]
        { world with gateway := (world.gateway.create cluster name).2 }
  | inserted {calls : List Call} {gateway : Clusters}
      {result : Except StoreError Registration × σ}
      (free : Free circumstances name cluster world)
      (provided : Provided name cluster world.gateway calls gateway)
      (insertion : circumstances.insertion world.store (draft caller name cluster stamp) = result) :
      Exit world (entryAnswer name cluster result.1)
        (.findByPair name cluster :: calls ++ [.insert (draft caller name cluster stamp)])
        ⟨result.2, gateway⟩

end

section

variable [Store σ] [Readable σ] {world : World σ Clusters} {circumstances : Circumstances}
  {caller : Principal} {name : String} {cluster : Int64} {stamp : Stamp}

theorem exit_enter (free : Free circumstances name cluster world) {calls : List Call}
    {gateway : Clusters} (provided : Provided name cluster world.gateway calls gateway) :
    let attempt := enter caller name cluster stamp
    let there : World σ Clusters := { world with gateway }
    Exit circumstances caller name cluster stamp world
      (attempt.run circumstances.answering there).1
      (.findByPair name cluster :: calls ++ attempt.calls circumstances.answering there)
      (attempt.run circumstances.answering there).2 := by
  have answered := enter_answered circumstances.answering caller name cluster stamp
    { world with gateway }
  simp only [answered.1, answered.2, Circumstances.answering]
  exact .inserted free provided rfl

theorem exit_provide (free : Free circumstances name cluster world) :
    let attempt : Attempt Registration := .ask (.isPresent cluster name) fun
      | .error error => .fail error.toRegistry
      | .ok true => enter caller name cluster stamp
      | .ok false =>
          .ask (.create cluster name) fun
            | .error error => .fail error.toRegistry
            | .ok () => enter caller name cluster stamp
    Exit circumstances caller name cluster stamp world
      (attempt.run circumstances.answering world).1
      (.findByPair name cluster :: attempt.calls circumstances.answering world)
      (attempt.run circumstances.answering world).2 := by
  simp only [Procedure.run, Procedure.calls, Circumstances.answering, World.answering,
    Gateway.isPresent, Clusters.isPresent]
  by_cases known : cluster ∈ world.gateway.known
  · simp only [if_pos known]
    by_cases there : (cluster, name) ∈ world.gateway.present
    · simp only [decide_eq_true there]
      exact exit_enter free (.present known there)
    · simp only [decide_eq_false there, Procedure.run, Procedure.calls, Circumstances.answering,
        World.answering, Gateway.create]
      cases planned : world.gateway.failNext with
      | true =>
          have exit : Exit circumstances caller name cluster stamp world _ _ _ :=
            .notCreated free known there planned
          simp only [Clusters.create, planned, if_true] at exit ⊢
          exact exit
      | false =>
          have exit : Exit circumstances caller name cluster stamp world _ _ _ :=
            exit_enter free (.created known there planned)
          simp only [Clusters.create, planned, if_pos known] at exit ⊢
          exact exit
  · simp only [if_neg known]
    exact .unknown free known

theorem exit_register [LawfulStore σ] (sound : Sound world.store) (circumstances : Circumstances)
    (caller : Principal) (name : String) (cluster : Int64) (stamp : Stamp) :
    let attempt := register caller name cluster stamp
    Exit circumstances caller name cluster stamp world
      (attempt.run circumstances.answering world).1
      (attempt.calls circumstances.answering world)
      (attempt.run circumstances.answering world).2 := by
  unfold register
  cases valid : Name.check name with
  | error fault => exact .invalid valid
  | ok _ =>
      simp only [Procedure.run, Procedure.calls, Circumstances.answering]
      cases answered : circumstances.lookupFails with
      | some error => exact .unanswered valid answered
      | none =>
          simp only [World.answering, LawfulStore.findByPair sound]
          cases found : (contents world.store).records.find? (·.isFor name cluster) with
          | some record =>
              have named := List.find?_some found
              exact .registered valid answered ⟨record, List.mem_of_find?_eq_some found, named⟩
          | none =>
              have free : ¬(contents world.store).Registered name cluster := by
                rintro ⟨record, member, named⟩
                exact List.find?_eq_none.mp found record member named
              exact exit_provide ⟨valid, answered, free⟩

end

/-! ## The account of a registration -/

section

variable (circumstances : Circumstances) (caller : Principal) (name : String) (cluster : Int64)
  (stamp : Stamp)

/-- The insert is made: the name is free, and it is on its cluster or can be created there. -/
@[grind cases]
structure Placeable [Readable σ] (world : World σ Clusters) : Prop where
  free : Free circumstances name cluster world
  known : cluster ∈ world.gateway.known
  creatable : (cluster, name) ∉ world.gateway.present → world.gateway.failNext = false

/-- What comes of a registration, cause by cause: where several causes are there at once, the one
that stands first here counts. -/
structure ExitsInOrder [Store σ] [Readable σ] (world : World σ Clusters)
    (outcome : Except RegistryError Registration) (calls : List Call) (after : World σ Clusters) :
    Prop where
  invalid : ∀ {fault}, Name.check name = .error fault →
    outcome = .error (.invalidArgument fault.message) ∧ calls = [] ∧ after = world
  unanswered : Name.check name = .ok () → ∀ {error}, circumstances.lookupFails = some error →
    outcome = .error error.toRegistry ∧ calls = [.findByPair name cluster] ∧ after = world
  registered : Name.check name = .ok () → circumstances.lookupFails = none →
    (contents world.store).Registered name cluster →
    outcome = .error (alreadyRegistered name cluster) ∧ calls = [.findByPair name cluster] ∧
      after = world
  unknown : Free circumstances name cluster world → cluster ∉ world.gateway.known →
    outcome = .error (.notFound ("Cluster " ++ Text.decimal cluster.toInt ++ " not found")) ∧
      calls = [.findByPair name cluster, .isPresent cluster name] ∧ after = world
  creates : Free circumstances name cluster world → cluster ∈ world.gateway.known →
    let needed := if (cluster, name) ∈ world.gateway.present then [] else [.create cluster name]
    calls.filter (·.kind = .create) = needed ∧
      after.gateway.createCalls = world.gateway.createCalls + needed.length
  notCreated : Free circumstances name cluster world → cluster ∈ world.gateway.known →
    (cluster, name) ∉ world.gateway.present → world.gateway.failNext = true →
    outcome = .error (rejected name cluster) ∧ after.store = world.store ∧
      after.gateway.present = world.gateway.present
  conflict : Placeable circumstances name cluster world →
    (∃ text, (circumstances.insertion world.store (draft caller name cluster stamp)).1 =
      .error (.conflict text)) →
    outcome = .error (alreadyRegistered name cluster)
  overtaken : Placeable circumstances name cluster world → circumstances.insertFails = none →
    (contents (joined world.store circumstances.others)).Registered name cluster →
    outcome = .error (alreadyRegistered name cluster)
  backend : Placeable circumstances name cluster world → ∀ {text},
    (circumstances.insertion world.store (draft caller name cluster stamp)).1 =
      .error (.backend text) →
    outcome = .error (.store text)
  missing : Placeable circumstances name cluster world → ∀ {id},
    (circumstances.insertion world.store (draft caller name cluster stamp)).1 =
      .error (.notFound id) →
    outcome = .error (.notFound ("Namespace " ++ Text.decimal id.toInt ++ " not found"))
  succeeds : Placeable circumstances name cluster world → circumstances.insertFails = none →
    let found := contents (joined world.store circumstances.others)
    ¬found.Registered name cluster → ¬found.Faults (draft caller name cluster stamp) →
    ∃ record, outcome = .ok record
  /-- What a failure leaves holds no record of the caller's that others did not enter. -/
  failed : ∀ {error}, outcome = .error error →
    after.store = world.store ∨ after.store = joined world.store circumstances.others
  others : ∃ arrived, (contents (joined world.store circumstances.others)).records =
      (contents world.store).records ++ arrived ∧
    ∀ record ∈ arrived, ∃ draft ∈ circumstances.others,
      record.pair = (draft.name, draft.cluster) ∧ record.owner = draft.owner
  entered : ∀ {record}, outcome = .ok record →
    record.pair = (name, cluster) ∧ record.owner = caller.id ∧
      record.createdAt = record.updatedAt ∧
      (cluster, name) ∈ after.gateway.present ∧
      (contents after.store).records =
        (contents (joined world.store circumstances.others)).records ++ [record]
  known : after.gateway.known = world.gateway.known
  elsewhere : ∀ other, other ≠ (cluster, name) →
    (other ∈ after.gateway.present ↔ other ∈ world.gateway.present)

end

/-! ### Exit by exit

The causes of two exits exclude each other, so a cause leaves one exit only. -/

section

variable [Store σ] [Readable σ] {world after : World σ Clusters} {circumstances : Circumstances}
  {caller : Principal} {name : String} {cluster : Int64} {stamp : Stamp}
  {outcome : Except RegistryError Registration} {calls : List Call}

namespace Exit

variable (exit : Exit circumstances caller name cluster stamp world outcome calls after)

include exit

theorem of_fault {fault : ValidationFault} (refused : Name.check name = .error fault) :
    outcome = .error (.invalidArgument fault.message) ∧ calls = [] ∧ after = world := by
  cases exit with
  | invalid other =>
      cases refused.symm.trans other
      exact ⟨rfl, rfl, rfl⟩
  | unanswered | registered | unknown | notCreated | inserted => grind

theorem of_lookupFails (valid : Name.check name = .ok ()) {error : StoreError}
    (fails : circumstances.lookupFails = some error) :
    outcome = .error error.toRegistry ∧ calls = [.findByPair name cluster] ∧ after = world := by
  cases exit with
  | unanswered _ others =>
      cases fails.symm.trans others
      exact ⟨rfl, rfl, rfl⟩
  | invalid | registered | unknown | notCreated | inserted => grind

theorem of_registered (valid : Name.check name = .ok ())
    (answered : circumstances.lookupFails = none)
    (taken : (contents world.store).Registered name cluster) :
    outcome = .error (alreadyRegistered name cluster) ∧ calls = [.findByPair name cluster] ∧
      after = world := by
  cases exit with
  | registered => exact ⟨rfl, rfl, rfl⟩
  | invalid | unanswered | unknown | notCreated | inserted => grind

theorem of_unknown (free : Free circumstances name cluster world)
    (unknown : cluster ∉ world.gateway.known) :
    outcome = .error (.notFound ("Cluster " ++ Text.decimal cluster.toInt ++ " not found")) ∧
      calls = [.findByPair name cluster, .isPresent cluster name] ∧ after = world := by
  cases exit with
  | unknown => exact ⟨rfl, rfl, rfl⟩
  | invalid | unanswered | registered | notCreated | inserted => grind

theorem of_failNext (free : Free circumstances name cluster world)
    (known : cluster ∈ world.gateway.known) (absent : (cluster, name) ∉ world.gateway.present)
    (planned : world.gateway.failNext = true) :
    outcome = .error (rejected name cluster) ∧ after.store = world.store ∧
      after.gateway.present = world.gateway.present := by
  cases exit with
  | notCreated =>
      refine ⟨rfl, rfl, ?_⟩
      simp only [Clusters.create, planned, if_true]
  | invalid | unanswered | registered | unknown | inserted => grind

theorem of_placeable (placeable : Placeable circumstances name cluster world) :
    let insertion := circumstances.insertion world.store (draft caller name cluster stamp)
    outcome = entryAnswer name cluster insertion.1 ∧ after.store = insertion.2 := by
  cases exit with
  | inserted free provided insertion =>
      subst insertion
      exact ⟨rfl, rfl⟩
  | invalid | unanswered | registered | unknown | notCreated => grind

theorem creates (free : Free circumstances name cluster world)
    (known : cluster ∈ world.gateway.known) :
    let needed := if (cluster, name) ∈ world.gateway.present then [] else [.create cluster name]
    calls.filter (·.kind = .create) = needed ∧
      after.gateway.createCalls = world.gateway.createCalls + needed.length := by
  cases exit with
  | notCreated _ _ absent =>
      simp only [if_neg absent, Clusters.createCalls_create]
      exact ⟨rfl, rfl⟩
  | inserted _ provided =>
      cases provided with
      | present _ there =>
          rw [if_pos there]
          exact ⟨rfl, rfl⟩
      | created _ absent =>
          simp only [if_neg absent, Clusters.createCalls_create]
          exact ⟨rfl, rfl⟩
  | invalid | unanswered | registered | unknown => grind

/-- Whatever happens, the clusters are the same or the name was asked to be created. -/
theorem gateway_cases :
    after.gateway = world.gateway ∨ after.gateway = (world.gateway.create cluster name).2 := by
  cases exit with
  | invalid | unanswered | registered | unknown => exact .inl rfl
  | notCreated => exact .inr rfl
  | inserted _ provided =>
      cases provided with
      | present => exact .inl rfl
      | created => exact .inr rfl

theorem known_eq : after.gateway.known = world.gateway.known := by
  rcases exit.gateway_cases with same | created
  · rw [same]
  · rw [created, Clusters.known_create]

theorem present_elsewhere (other : Int64 × String) (elsewhere : other ≠ (cluster, name)) :
    other ∈ after.gateway.present ↔ other ∈ world.gateway.present := by
  rcases exit.gateway_cases with same | created
  · rw [same]
  · rw [created]
    constructor
    · intro member
      exact (Clusters.mem_present_create member).resolve_right elsewhere
    · intro member
      exact (world.gateway.grows_create cluster name).present member

variable [LawfulStore σ]

theorem failed (sound : Sound world.store) {error : RegistryError}
    (fails : outcome = .error error) :
    after.store = world.store ∨ after.store = joined world.store circumstances.others := by
  cases exit with
  | invalid | unanswered | registered | unknown | notCreated => exact .inl rfl
  | inserted _ _ insertion =>
      rcases insertion_cases sound circumstances (draft caller name cluster stamp) with
        ⟨error, refused⟩ | ⟨record, next, accepted, _⟩
      · rw [← insertion, refused]
        exact .inr rfl
      · rw [← insertion, accepted] at fails
        cases fails

theorem entered (sound : Sound world.store) {record : Registration}
    (succeeds : outcome = .ok record) :
    (cluster, name) ∈ after.gateway.present ∧
      (contents (joined world.store circumstances.others)).Enters (contents after.store)
        (draft caller name cluster stamp) record := by
  cases exit with
  | invalid | unanswered | registered | unknown | notCreated => cases succeeds
  | inserted _ provided insertion =>
      rcases insertion_cases sound circumstances (draft caller name cluster stamp) with
        ⟨error, refused⟩ | ⟨entered, next, accepted, enters⟩
      · rw [← insertion, refused] at succeeds
        cases error <;> cases succeeds
      · rw [← insertion, accepted] at succeeds ⊢
        cases succeeds
        exact ⟨provided.there, enters⟩

end Exit

end

/-- A registration goes out by the exit of its first cause. -/
theorem registration_exits_in_order [Store σ] [Readable σ] [LawfulStore σ]
    {world : World σ Clusters} (sound : Sound world.store) (circumstances : Circumstances)
    (caller : Principal) (name : String) (cluster : Int64) (stamp : Stamp) :
    let attempt := register caller name cluster stamp
    ExitsInOrder circumstances caller name cluster stamp world
      (attempt.run circumstances.answering world).1
      (attempt.calls circumstances.answering world)
      (attempt.run circumstances.answering world).2 := by
  have exit := exit_register sound circumstances caller name cluster stamp
  constructor
  case invalid => exact exit.of_fault
  case unanswered => exact exit.of_lookupFails
  case registered => exact exit.of_registered
  case unknown => exact exit.of_unknown
  case creates => exact exit.creates
  case notCreated => exact exit.of_failNext
  case conflict =>
    rintro placeable ⟨text, refused⟩
    rw [(exit.of_placeable placeable).1, refused]
    rfl
  case overtaken =>
    intro placeable unplanned taken
    have refused := insertion_unplanned sound unplanned (draft caller name cluster stamp)
    rw [(exit.of_placeable placeable).1]
    generalize circumstances.insertion world.store (draft caller name cluster stamp) = result
      at refused ⊢
    cases refused with
    | conflict => rfl
    | failed text free => exact absurd taken free
    | entered record next _ enters => exact absurd taken enters.free
  case backend =>
    intro placeable text refused
    rw [(exit.of_placeable placeable).1, refused]
    rfl
  case missing =>
    intro placeable id refused
    rw [(exit.of_placeable placeable).1, refused]
    rfl
  case succeeds =>
    intro placeable unplanned found free faultless
    have accepted := insertion_unplanned sound unplanned (draft caller name cluster stamp)
    rw [(exit.of_placeable placeable).1]
    generalize circumstances.insertion world.store (draft caller name cluster stamp) = result
      at accepted ⊢
    cases accepted with
    | conflict text taken => exact absurd taken free
    | failed text _ fault => exact absurd fault faultless
    | entered record => exact ⟨record, rfl⟩
  case failed => exact exit.failed sound
  case others => exact records_joined sound circumstances.others
  case entered =>
    intro record succeeds
    rcases exit.entered sound succeeds with ⟨there, enters⟩
    refine ⟨enters.pair, enters.owner, enters.updated.symm, there, ?_⟩
    rw [enters.rest]
  case known => exact exit.known_eq
  case elsewhere => exact exit.present_elsewhere

/-- Bob enters the name between alice's lookup and her insert. -/
theorem bob_overtakes_alice :
    let alice : Principal := ⟨1, "alice", .general⟩
    let bob : Principal := ⟨2, "bob", .general⟩
    let world := BackEnd.database.start (.withCodes [100])
    let overtaking : Circumstances := ⟨none, none, [draft bob "team-x" 100 ⟨2, .epoch⟩]⟩
    Sound world.store ∧
      ((register alice "team-x" 100 ⟨1, .epoch⟩).run overtaking.answering world).1 =
        .error (alreadyRegistered "team-x" 100) := by
  intro alice bob world overtaking
  have sound : Sound world.store := BackEnd.database.sound_fresh
  have exits := registration_exits_in_order sound overtaking alice "team-x" 100 ⟨1, .epoch⟩
  have free : Free overtaking "team-x" 100 world := ⟨by decide +kernel, rfl, by decide +kernel⟩
  exact ⟨sound, exits.overtaken ⟨free, by decide, fun _ => rfl⟩ rfl (by decide +kernel)⟩

/-- A record that is missing is reported as missing, also by an insert. -/
theorem missing_record_is_not_found :
    let outcome := ((BackEnd.memory.start (.withCodes [100])).runFaulty
      [(.insert, .storeFails (.notFound 5))]
      (register ⟨7, "alice", .general⟩ "team-x" 100 ⟨1, .epoch⟩)).1
    outcome = .error (.notFound "Namespace 5 not found") ∧
      ∀ text, outcome ≠ .error (.store text) := by
  have outcome : ((BackEnd.memory.start (.withCodes [100])).runFaulty
      [(.insert, .storeFails (.notFound 5))]
      (register ⟨7, "alice", .general⟩ "team-x" 100 ⟨1, .epoch⟩)).1 =
        .error (.notFound "Namespace 5 not found") := by
    decide +kernel
  refine ⟨outcome, ?_⟩
  intro text store
  cases outcome.symm.trans store

end Tenancy
