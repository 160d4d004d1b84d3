import Mathlib.Data.Finset.Card
import Mathlib.Data.List.Induction
import Tenancy.Proofs.History.Resumption
import Tenancy.Proofs.Store.Deletion

/-! The workload references of the database. A workload of a namespace is active as it was last set,
unless the namespace was deleted since. The rows are exactly these last settings, one for each
namespace and workload, so counting the active rows of a namespace counts its active workloads. -/

namespace Tenancy.Database

open Readable

/-! ## Events -/

/-- What becomes of the references: a workload is set, or all of a namespace go with it. -/
inductive ReferenceEvent where
  | set (id : Int64) (workload : String) (active : Bool)
  | cleared (id : Int64)
  deriving DecidableEq

namespace ReferenceEvent

def namespaceId : ReferenceEvent → Int64
  | set id _ _ | cleared id => id

def apply (rows : List WorkloadRow) : ReferenceEvent → List WorkloadRow
  | set id workload active => setReference rows ⟨id, workload, active⟩
  | cleared id => rows.filter (·.namespaceId != id)

end ReferenceEvent

/-- The workload was set so, and neither set again nor cleared afterwards. -/
def LastSet (log : List ReferenceEvent) (id : Int64) (workload : String) (active : Bool) : Prop :=
  ∃ before after, log = before ++ .set id workload active :: after ∧
    (∀ other, .set id workload other ∉ after) ∧ .cleared id ∉ after

section

variable {log : List ReferenceEvent} {event : ReferenceEvent} {id : Int64} {workload : String}
  {active : Bool}

theorem not_lastSet_nil : ¬LastSet [] id workload active := by
  rintro ⟨before, after, same, _⟩
  cases before <;> cases same

theorem lastSet_concat : LastSet (log ++ [event]) id workload active ↔
    event = .set id workload active ∨
      LastSet log id workload active ∧ (∀ other, event ≠ .set id workload other) ∧
        event ≠ .cleared id := by
  constructor
  · rintro ⟨before, after, same, unset, uncleared⟩
    rcases after.eq_nil_or_concat with rfl | ⟨after, last, rfl⟩
    · exact .inl (List.append_inj_right' same rfl |> List.singleton_inj.mp)
    · rw [List.concat_eq_append, ← List.cons_append, ← List.append_assoc] at same
      have ends := List.append_inj' same rfl
      cases List.singleton_inj.mp ends.2
      simp only [List.concat_eq_append, List.mem_append, List.mem_singleton, not_or] at unset uncleared
      refine .inr ⟨⟨before, after, ends.1, fun other => (unset other).1, uncleared.1⟩, ?_, ?_⟩
      · exact fun other equal => (unset other).2 equal.symm
      · exact fun equal => uncleared.2 equal.symm
  · rintro (rfl | ⟨⟨before, after, rfl, unset, uncleared⟩, different, kept⟩)
    · exact ⟨log, [], rfl, fun _ => List.not_mem_nil, List.not_mem_nil⟩
    · refine ⟨before, after ++ [event], by simp, ?_, ?_⟩
      · intro other member
        rcases List.mem_append.mp member with earlier | last
        · exact unset other earlier
        · exact different other (List.mem_singleton.mp last).symm
      · intro member
        rcases List.mem_append.mp member with earlier | last
        · exact uncleared earlier
        · exact kept (List.mem_singleton.mp last).symm

/-- What happens to other namespaces does not bear on a workload. -/
theorem lastSet_append_of_elsewhere {more : List ReferenceEvent}
    (elsewhere : ∀ event ∈ more, event.namespaceId ≠ id) :
    LastSet (log ++ more) id workload active ↔ LastSet log id workload active := by
  induction more using List.reverseRecOn with
  | nil => rw [List.append_nil]
  | append_singleton more event induction =>
      have last := elsewhere event (List.mem_append_right _ (List.mem_singleton_self _))
      rw [← List.append_assoc, lastSet_concat,
        induction fun event member => elsewhere event (List.mem_append_left _ member)]
      constructor
      · rintro (rfl | ⟨set, _⟩)
        · exact absurd rfl last
        · exact set
      · intro set
        refine .inr ⟨set, ?_, ?_⟩
        · rintro other rfl
          exact last rfl
        · rintro rfl
          exact last rfl

end

/-! ## Rows -/

/-- The rows are the last settings, and no two are for one workload of a namespace. -/
structure Reflects (rows : List WorkloadRow) (log : List ReferenceEvent) : Prop where
  once : (rows.map WorkloadRow.key).Nodup
  mem_iff : ∀ row, row ∈ rows ↔ LastSet log row.namespaceId row.workload row.active

theorem reflects_nil : Reflects [] [] :=
  ⟨.nil, fun _ => ⟨nofun, fun set => absurd set not_lastSet_nil⟩⟩

namespace Reflects

variable {rows : List WorkloadRow} {log : List ReferenceEvent}

theorem apply (reflects : Reflects rows log) (event : ReferenceEvent) :
    Reflects (event.apply rows) (log ++ [event]) := by
  cases event with
  | set id workload active =>
      refine ⟨setReference_nodup reflects.once _, ?_⟩
      intro row
      rw [ReferenceEvent.apply, mem_setReference reflects.once, reflects.mem_iff, lastSet_concat]
      constructor
      · rintro (rfl | ⟨set, different⟩)
        · exact .inl rfl
        · refine .inr ⟨set, ?_, nofun⟩
          rintro other ⟨⟩
          exact different rfl
      · rintro (⟨⟨⟩⟩ | ⟨set, different, _⟩)
        · exact .inl rfl
        · refine .inr ⟨set, ?_⟩
          intro same
          cases Prod.mk.inj same with
          | intro id workload => exact different active (by rw [id, workload])
  | cleared id =>
      refine ⟨reflects.once.sublist (List.filter_sublist.map _), ?_⟩
      intro row
      rw [ReferenceEvent.apply, List.mem_filter, reflects.mem_iff, bne_iff_ne, lastSet_concat]
      constructor
      · rintro ⟨set, different⟩
        refine .inr ⟨set, nofun, ?_⟩
        rintro ⟨⟩
        exact different rfl
      · rintro (⟨⟨⟩⟩ | ⟨set, _, kept⟩)
        exact ⟨set, fun same => kept (by rw [same])⟩

/-- Counting the active rows of a namespace counts the workloads that were last set active. -/
theorem countP_eq (reflects : Reflects rows log) (id : Int64) :
    ∃ workloads : Finset String,
      (∀ workload, workload ∈ workloads ↔ LastSet log id workload true) ∧
      rows.countP (fun row => row.namespaceId == id && row.active) = workloads.card := by
  let counted := rows.filter fun row => row.namespaceId == id && row.active
  have named : counted.map WorkloadRow.key = (counted.map (·.workload)).map (Prod.mk id) := by
    rw [List.map_map]
    apply List.map_congr_left
    intro row member
    have passes := (List.mem_filter.mp member).2
    rw [Bool.and_eq_true, beq_iff_eq] at passes
    exact Prod.ext passes.1 rfl
  have once : (counted.map (·.workload)).Nodup := by
    apply List.Nodup.of_map (Prod.mk id)
    rw [← named]
    exact reflects.once.sublist (List.filter_sublist.map _)
  refine ⟨(counted.map (·.workload)).toFinset, ?_, ?_⟩
  · intro workload
    rw [List.mem_toFinset, List.mem_map]
    constructor
    · rintro ⟨row, member, rfl⟩
      rcases List.mem_filter.mp member with ⟨member, passes⟩
      rw [Bool.and_eq_true, beq_iff_eq] at passes
      have set := (reflects.mem_iff row).mp member
      rwa [passes.1, passes.2] at set
    · intro set
      have member := (reflects.mem_iff ⟨id, workload, true⟩).mpr set
      exact ⟨_, List.mem_filter.mpr ⟨member, by simp⟩, rfl⟩
  · rw [List.toFinset_card_of_nodup once, List.length_map, List.countP_eq_length_filter]

end Reflects

/-! ## Steps -/

/-- A write to the database. A deletion may be disturbed on its way. -/
inductive Step where
  | write (made : Write)
  | deletion (disturbance : Disturbance) (id : Int64)

namespace Step

def perform (database : Database) : Step → Database
  | write made => made.perform database
  | deletion disturbance id => (deleteDisturbed disturbance database id).2

/-- What becomes of the references. Nothing does where the step fails. -/
def event? (database : Database) : Step → Option ReferenceEvent
  | write (.setWorkload id workload active) =>
      (Store.setWorkload database id workload active).1.toOption.map fun _ =>
        .set id workload active
  | write (.delete id) => (Store.delete database id).1.toOption.map fun _ => .cleared id
  | deletion disturbance id =>
      (deleteDisturbed disturbance database id).1.toOption.map fun _ => .cleared id
  | write (.insert _) | write (.grant ..) | write (.revoke ..) | write (.addUser _) => none

end Step

def performSteps (database : Database) (steps : List Step) : Database :=
  steps.foldl Step.perform database

/-- What becomes of the references in the course of some steps. -/
def events (database : Database) : List Step → List ReferenceEvent
  | [] => []
  | step :: rest => (step.event? database).toList ++ (step.perform database).events rest

section

variable {tables : Tables} {database : Database} {log : List ReferenceEvent}

/-- A disturbance keeps a deletion from doing anything, or does not matter. -/
theorem deleteDisturbed_cases (disturbance : Disturbance) (database : Database) (id : Int64) :
    deleteDisturbed disturbance database id = database.delete id ∨
      ∃ error, deleteDisturbed disturbance database id = (.error error, database) := by
  cases ended : deleteInside disturbance database id with
  | error error => exact .inr ⟨error, by rw [deleteDisturbed, ended]⟩
  | ok after =>
      have deletes := (deleteInside_eq_ok.mp ended).2
      have calm : deleteInside undisturbed database id = .ok after :=
        deleteInside_eq_ok.mpr ⟨fun _ => rfl, deletes⟩
      exact .inl (by rw [delete, deleteDisturbed, deleteDisturbed, ended, calm])

/-- A step changes the references as its event tells, and otherwise leaves them. -/
theorem workloads_write (tables : Tables) (write : Write) :
    ∃ next : Tables, write.perform tables.database = next.database ∧
      next.workloads = ((Step.write write).event? tables.database).elim tables.workloads
        (·.apply tables.workloads) := by
  cases write with
  | insert draft =>
      simp only [Write.perform, Store.insert, Tables.insert_database]
      cases tables.namespaces.insert (.ofDraft draft) with
      | error failure => exact ⟨tables, rfl, rfl⟩
      | ok inserted => exact ⟨_, rfl, rfl⟩
  | delete id =>
      simp only [Write.perform, Step.event?, Store.delete, Tables.delete_database]
      by_cases present : ∃ row ∈ tables.namespaces.rows, row.id = id
      · simp only [if_pos present]
        exact ⟨tables.without id, rfl, rfl⟩
      · simp only [if_neg present]
        exact ⟨tables, rfl, rfl⟩
  | grant user id => exact ⟨_, congrArg Prod.snd (tables.grant_database user id), rfl⟩
  | revoke user id => exact ⟨_, congrArg Prod.snd (tables.revoke_database user id), rfl⟩
  | setWorkload id workload active =>
      exact ⟨_, congrArg Prod.snd (tables.setWorkload_database id workload active), rfl⟩
  | addUser user =>
      simp only [Write.perform, Store.addUser, Tables.addUser_database]
      cases userClash? tables.users user with
      | some key => exact ⟨tables, rfl, rfl⟩
      | none => exact ⟨tables.withUser user, rfl, rfl⟩

theorem workloads_step (tables : Tables) (step : Step) :
    ∃ next : Tables, step.perform tables.database = next.database ∧
      next.workloads = (step.event? tables.database).elim tables.workloads
        (·.apply tables.workloads) := by
  cases step with
  | write made => exact workloads_write tables made
  | deletion disturbance id =>
      simp only [Step.perform, Step.event?]
      rcases deleteDisturbed_cases disturbance tables.database id with same | ⟨error, kept⟩
      · rw [same]
        exact workloads_write tables (.delete id)
      · rw [kept]
        exact ⟨tables, rfl, rfl⟩

/-- All tables are there, and the references are the last settings. -/
def Recounts (database : Database) (log : List ReferenceEvent) : Prop :=
  ∃ tables : Tables, tables.database = database ∧ Reflects tables.workloads log

theorem recounts_fresh : Recounts fresh [] :=
  ⟨fresh.held, rfl, reflects_nil⟩

theorem Recounts.step (recounts : Recounts database log) (step : Step) :
    Recounts (step.perform database) (log ++ (step.event? database).toList) := by
  rcases recounts with ⟨tables, rfl, reflects⟩
  rcases workloads_step tables step with ⟨next, same, workloads⟩
  refine ⟨next, same.symm, ?_⟩
  rw [workloads]
  cases step.event? tables.database with
  | none => exact (List.append_nil log).symm ▸ reflects
  | some event => exact reflects.apply event

theorem Recounts.steps (recounts : Recounts database log) (steps : List Step) :
    Recounts (database.performSteps steps) (log ++ database.events steps) := by
  induction steps generalizing database log with
  | nil => exact (List.append_nil log).symm ▸ recounts
  | cons step rest induction =>
      rw [events, ← List.append_assoc]
      exact induction (recounts.step step)

theorem Recounts.countActive (recounts : Recounts database log) (id : Int64) :
    ∃ workloads : Finset String,
      (∀ workload, workload ∈ workloads ↔ LastSet log id workload true) ∧
      database.countActive id = .ok workloads.card ∧
      Store.hasActive database id = .ok (decide (0 < workloads.card)) := by
  rcases recounts with ⟨tables, rfl, reflects⟩
  rcases reflects.countP_eq id with ⟨workloads, told, counted⟩
  have counts : tables.database.countActive id = .ok workloads.card := congrArg Except.ok counted
  exact ⟨workloads, told, counts, congrArg (Except.map fun count => decide (0 < count)) counts⟩

end

/-- What a database tells of its workload references, given what became of them. -/
structure TellsLastSettings (database : Database) (log : List ReferenceEvent) : Prop where
  settable : ∀ id workload active, (Store.setWorkload database id workload active).1 = .ok ()
  rows : ∃ rows, database.workloads = some rows ∧ (rows.map WorkloadRow.key).Nodup ∧
    ∀ row, row ∈ rows ↔ LastSet log row.namespaceId row.workload row.active
  count : ∀ id, ∃ workloads : Finset String,
    (∀ workload, workload ∈ workloads ↔ LastSet log id workload true) ∧
    database.countActive id = .ok workloads.card ∧
    Store.hasActive database id = .ok (decide (0 < workloads.card))

/-- After any writes, and any deletions that something went wrong with, the active references of a
namespace are the workloads last set active. What is done to other namespaces does not change their
number. -/
theorem references_are_the_last_settings (steps : List Step) :
    let database := fresh.performSteps steps
    TellsLastSettings database (fresh.events steps) ∧
    ∀ id more, (∀ event ∈ database.events more, event.namespaceId ≠ id) →
      (database.performSteps more).countActive id = database.countActive id ∧
      Store.hasActive (database.performSteps more) id = Store.hasActive database id := by
  intro database
  have recounts : Recounts database (fresh.events steps) := recounts_fresh.steps steps
  refine ⟨⟨?_, ?_, recounts.countActive⟩, ?_⟩
  · rcases recounts with ⟨tables, same, -⟩
    rw [← same]
    exact fun id workload active => congrArg Prod.fst (tables.setWorkload_database id workload active)
  · rcases recounts with ⟨tables, same, reflects⟩
    exact ⟨tables.workloads, same ▸ rfl, reflects.once, reflects.mem_iff⟩
  · intro id more elsewhere
    rcases recounts.countActive id with ⟨workloads, told, counts, inUse⟩
    rcases (recounts.steps more).countActive id with ⟨later, toldLater, countsLater, inUseLater⟩
    have same : later = workloads := by
      ext workload
      rw [told, toldLater, lastSet_append_of_elsewhere elsewhere]
    rw [countsLater, inUseLater, same]
    exact ⟨counts.symm, inUse.symm⟩

/-! Two deletions come to nothing: the disk is full before the references of the first namespace are
gone, and there is no second namespace. -/

def busy : List Step := [
  .write (.insert ⟨1, "team-x", 100, 7, .epoch⟩),
  .write (.setWorkload 1 "etl" true), .write (.setWorkload 1 "load" true),
  .write (.setWorkload 2 "etl" true), .write (.setWorkload 1 "etl" false),
  .deletion (fun stage => if stage = .workloads then some .full else none) 1,
  .write (.delete 2)]

theorem load_keeps_its_namespace_in_use :
    let database := fresh.performSteps busy
    let elsewhere : List Step := [.write (.setWorkload 2 "load" true), .write (.delete 2)]
    (∃ workloads : Finset String, database.countActive 1 = .ok workloads.card ∧
      "load" ∈ workloads ∧ "etl" ∉ workloads) ∧
    Store.hasActive (database.performSteps elsewhere) 1 = .ok true := by
  intro database elsewhere
  have tells := references_are_the_last_settings busy
  constructor
  · rcases tells.1.count 1 with ⟨workloads, told, counts, _⟩
    rcases tells.1.rows with ⟨rows, held, _, last⟩
    refine ⟨workloads, counts, ?_, ?_⟩
    · rw [told, ← last ⟨1, "load", true⟩]
      exact Option.some.inj held ▸ (by decide +kernel)
    · rw [told, ← last ⟨1, "etl", true⟩]
      exact Option.some.inj held ▸ (by decide +kernel)
  · rw [(tells.2 1 elsewhere (by decide +kernel)).2]
    decide +kernel

end Tenancy.Database
