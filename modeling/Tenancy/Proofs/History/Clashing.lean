import Tenancy.Proofs.History.Change

/-! How the database refuses a namespace. Only the wording of the refusal tells a code that is in
use from a name that is; either way nothing is written and no id is spent. So a registration that
draws a code in use leaves its name free for the next attempt. -/

namespace Tenancy

open Readable Registry Database

/-! ## Ids -/

/-- An operation spends one id at most. -/
theorem Change.lastId_le {operation : Operation} {answer : Answer} {before after : Contents}
    (change : Change operation answer before after) :
    after.lastId.toInt ≤ before.lastId.toInt + 1 := by
  rcases change.lastId_cases with ⟨_, same⟩ | ⟨draft, record, _, enters⟩
  · rw [same]
    omega
  · rw [enters.rest]
    exact Int.le_of_eq (toInt_of_nextId? enters.next)

theorem World.lastId_after [Store σ] [Readable σ] [LawfulStore σ] {world : World σ Clusters}
    (sound : Sound world.store) (history : List Operation) :
    (contents (world.after history).store).lastId.toInt ≤
      (contents world.store).lastId.toInt + history.length := by
  induction history generalizing world with
  | nil => exact Int.le_of_eq (Int.add_zero _).symm
  | cons operation rest induction =>
      have changed := change_perform sound operation
      have step := changed.2.lastId_le
      have later := induction changed.1
      rw [World.after, List.length_cons]
      omega

/-- No history that anyone can live through uses up the ids. -/
theorem BackEnd.nextId?_after (backEnd : BackEnd) (clusters : Clusters) {history : List Operation}
    (short : history.length < Int64.maxValue.toInt) :
    nextId? (contents ((backEnd.start clusters).after history).store).lastId ≠ none := by
  have sound : Sound (backEnd.start clusters).store := backEnd.sound_fresh
  have spent := World.lastId_after sound history
  rw [BackEnd.start, backEnd.contents_fresh] at spent
  have first : Contents.empty.lastId.toInt = 0 := rfl
  intro none
  unfold nextId? at none
  by_cases full :
      (contents ((backEnd.start clusters).after history).store).lastId = Int64.maxValue
  · rw [BackEnd.start] at full
    rw [full, first] at spent
    omega
  · rw [if_neg full] at none
    cases none

/-- In memory nothing but a pair that is registered keeps a draft out, and the ids are counted up. -/
theorem Memory.insert_after (clusters : Clusters) {history : List Operation}
    (short : history.length < Int64.maxValue.toInt) (draft : Draft) :
    let memory : Memory := ((BackEnd.memory.start clusters).after history).store
    memory.insert draft =
      if (contents memory).Registered draft.name draft.cluster then
        (.error (.conflict (draft.name ++ " on cluster " ++ Text.decimal draft.cluster.toInt)), memory)
      else
        (.ok (draft.enter (memory.lastId + 1)),
          { memory with
            lastId := memory.lastId + 1
            rows := memory.rows ++ [draft.enter (memory.lastId + 1)] }) := by
  intro memory
  have left : nextId? memory.lastId ≠ none := BackEnd.memory.nextId?_after clusters short
  have more : memory.lastId ≠ Int64.maxValue := fun last => left (if_pos last)
  have next : nextId? memory.lastId = some (memory.lastId + 1) := if_neg more
  have taken_iff : memory.rows.any (·.isFor draft.name draft.cluster) = true ↔
      (contents memory).Registered draft.name draft.cluster := List.any_eq_true
  simp only [insert, taken_iff, next]

/-! ## Registrations -/

def codeClash (stamp : Stamp) : RegistryError :=
  .store ("Namespace code " ++ Text.decimal stamp.code.toInt ++ " already in use")

/-- A registration of a free name that draws a code in use. -/
structure DrawsUsedCode [Gateway γ] (table : NamespaceTable) (world : World Database γ)
    (caller : Principal) (name : String) (cluster : Int64) (stamp : Stamp)
    (outcome : Except RegistryError Registration) (after : World Database γ) : Prop where
  fails : ∃ error, outcome = .error error ∧ ∀ text, error ≠ .conflict text
  clash : Name.check name = .ok () → (provide world.gateway cluster name).1 = .ok () →
    outcome = .error (codeClash stamp)
  /-- The insert comes last, and no clash of codes is taken for one of names there. -/
  entry : world.run (enter caller name cluster stamp) = (.error (codeClash stamp), world)
  kept : after.store = world.store
  free : Name.check name = .ok () → (after.run (verifyUnique name cluster)).1 = .ok true
  retried : ∀ other otherStamp, ¬table.HasCode (draft other name cluster otherStamp) →
    nextId? table.sequence ≠ none → Name.check name = .ok () →
    (provide after.gateway cluster name).1 = .ok () →
    ∃ record, (after.run (register other name cluster otherStamp)).1 = .ok record ∧
      record.pair = (name, cluster) ∧ record.code = otherStamp.code

section

variable [Gateway γ] {tables : Tables} {caller : Principal} {name : String} {cluster : Int64}
  {stamp : Stamp}

theorem run_register_of_provided {world : World Database γ} (caller : Principal) (stamp : Stamp)
    (sound : Sound world.store) (valid : Name.check name = .ok ())
    (free : ¬(contents world.store).Registered name cluster)
    (provided : (provide world.gateway cluster name).1 = .ok ()) :
    ∃ gateway, world.run (register caller name cluster stamp) =
      World.run ⟨world.store, gateway⟩ (enter caller name cluster stamp) := by
  rcases answered : provide world.gateway cluster name with ⟨answer, gateway⟩
  rw [answered] at provided
  cases provided
  exact ⟨gateway, by simp only [run_register, valid, findByPair_of_free sound free, answered]⟩

theorem run_enter_of_hasCode
    (free : ¬tables.namespaces.HasPair (draft caller name cluster stamp))
    (used : tables.namespaces.HasCode (draft caller name cluster stamp)) (gateway : γ) :
    World.run ⟨tables.database, gateway⟩ (enter caller name cluster stamp) =
      (.error (codeClash stamp), ⟨tables.database, gateway⟩) := by
  have refused := (settled_insert tables (draft caller name cluster stamp)).code free used
  rw [run_enter]
  simp only [Store.insert, refused.1, refused.2]
  rfl

theorem run_enter_of_unused
    (free : ¬tables.namespaces.HasPair (draft caller name cluster stamp))
    (unused : ¬tables.namespaces.HasCode (draft caller name cluster stamp))
    (left : nextId? tables.namespaces.sequence ≠ none) (gateway : γ) :
    ∃ record, (World.run ⟨tables.database, gateway⟩ (enter caller name cluster stamp)).1 =
      .ok record ∧ record.pair = (name, cluster) ∧ record.code = stamp.code := by
  rcases Option.ne_none_iff_exists'.mp left with ⟨id, next⟩
  have settled := settled_insert tables (draft caller name cluster stamp)
  have entered := settled.entered free unused id next
  refine ⟨(rowOf (draft caller name cluster stamp) id).registration, ?_, rfl, rfl⟩
  rw [run_enter]
  simp only [Store.insert, entered.1]
  rfl

theorem drawsUsedCode (constrained : tables.Constrained) (gateway : γ)
    (free : ¬tables.namespaces.HasPair (draft caller name cluster stamp))
    (used : tables.namespaces.HasCode (draft caller name cluster stamp)) :
    let world : World Database γ := ⟨tables.database, gateway⟩
    DrawsUsedCode tables.namespaces world caller name cluster stamp
      (world.run (register caller name cluster stamp)).1
      (world.run (register caller name cluster stamp)).2 := by
  intro world
  have sound : Sound world.store := constrained.sound
  have unregistered : ¬(contents world.store).Registered name cluster :=
    mt (tables.hasPair_iff (draft caller name cluster stamp)).mpr free
  have ended : ∃ error gateway,
      world.run (register caller name cluster stamp) = (.error error, ⟨tables.database, gateway⟩) ∧
        ∀ text, error ≠ .conflict text := by
    rw [run_register]
    cases Name.check name with
    | error fault => exact ⟨_, gateway, rfl, nofun⟩
    | ok _ =>
        simp only [findByPair_of_free sound unregistered]
        rcases provide gateway cluster name with ⟨answer, asked⟩
        cases answer with
        | error error =>
            refine ⟨_, asked, rfl, ?_⟩
            cases error <;> nofun
        | ok _ => exact ⟨_, asked, run_enter_of_hasCode free used asked, nofun⟩
  rcases ended with ⟨error, asked, ended, notConflict⟩
  constructor
  case fails => exact ⟨error, by rw [ended], notConflict⟩
  case clash =>
    intro valid provided
    rcases run_register_of_provided caller stamp sound valid unregistered provided with ⟨asked, ran⟩
    rw [ran, run_enter_of_hasCode free used asked]
  case entry => exact run_enter_of_hasCode free used gateway
  case kept => rw [ended]
  case free =>
    intro valid
    rw [ended]
    have soundAfter : Sound (World.mk tables.database asked).store := sound
    exact verifyUnique_of_free soundAfter valid unregistered
  case retried =>
    intro other otherStamp unused left valid provided
    rw [ended] at provided ⊢
    have soundAfter : Sound (World.mk tables.database asked).store := sound
    rcases run_register_of_provided other otherStamp soundAfter valid unregistered provided with
      ⟨last, ran⟩
    rw [ran]
    have freeStill : ¬tables.namespaces.HasPair (draft other name cluster otherStamp) := free
    exact run_enter_of_unused freeStill unused left last

end

/-- What a database makes of the drafts that come next. -/
structure TellsClashesApart (database : Database) (table : NamespaceTable) : Prop where
  insert : ∀ draft, Settled table database draft (Store.insert database draft).1
    (Store.insert database draft).2
  ok_iff : ∀ draft, (∃ record, (Store.insert database draft).1 = .ok record) ↔
    ¬table.HasPair draft ∧ ¬table.HasCode draft ∧ nextId? table.sequence ≠ none
  conflict_iff : ∀ draft, (∃ text, (Store.insert database draft).1 = .error (.conflict text)) ↔
    table.HasPair draft
  register : ∀ {γ : Type} [Gateway γ] (gateway : γ) caller name cluster stamp,
    ¬table.HasPair (draft caller name cluster stamp) →
    table.HasCode (draft caller name cluster stamp) →
    let world : World Database γ := ⟨database, gateway⟩
    let ended := world.run (Registry.register caller name cluster stamp)
    DrawsUsedCode table world caller name cluster stamp ended.1 ended.2

/-- Whatever was asked of the database before, it enters the drafts that clash in nothing, and tells
the others apart. -/
theorem clashes_are_told_apart (clusters : Clusters) (history : List Operation) :
    let database : Database := ((BackEnd.database.start clusters).after history).store
    ∃ table, database.namespaces = some table ∧ TellsClashesApart database table ∧
      (history.length < Int64.maxValue.toInt →
        nextId? table.sequence ≠ none ∧
        ∀ draft, (∃ record, (Store.insert database draft).1 = .ok record) ↔
          ¬table.HasPair draft ∧ ¬table.HasCode draft) := by
  intro database
  rcases BackEnd.database.sound_after clusters history with ⟨tables, same, constrained⟩
  have same : tables.database = database := same
  rw [← same]
  have settled := settled_insert tables
  refine ⟨tables.namespaces, rfl, ?_, ?_⟩
  · exact ⟨settled, fun draft => (settled draft).ok_iff, fun draft => (settled draft).conflict_iff,
      fun gateway _ _ _ _ free used => drawsUsedCode constrained gateway free used⟩
  · intro short
    have left : nextId? (contents database).lastId ≠ none :=
      BackEnd.database.nextId?_after clusters short
    rw [← same] at left
    change nextId? tables.namespaces.sequence ≠ none at left
    refine ⟨left, ?_⟩
    intro draft
    have succeeds := (settled draft).ok_iff
    rwa [and_iff_left left] at succeeds

/-! The wording is that of the database, so a name that reads like a column does not matter. -/

example :
    let database := (Store.insert Database.fresh ⟨1, "k8s_namespaces.code", 100, 1, .epoch⟩).2
    (Store.insert database ⟨2, "k8s_namespaces.code", 100, 2, .epoch⟩).1 =
        .error (.conflict
          "Namespace 'k8s_namespaces.code' is already registered on cluster 100") ∧
      (Store.insert database ⟨1, "team-a", 100, 2, .epoch⟩).1 =
        .error (.backend "Namespace code 1 already in use") := by
  decide +kernel

end Tenancy
