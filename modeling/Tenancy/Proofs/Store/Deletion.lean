import Tenancy.Database.Namespaces
import Tenancy.Proofs.Outcome

/-! A deletion, statement by statement. Its statements act on a copy of what is stored, so what is
stored changes with the last of them or not at all, wherever the deletion fails or is cut off. -/

namespace Tenancy.Database

open DeleteStage

variable {disturbance : Disturbance} {id : Int64} {stage : DeleteStage}
variable {database before after : Database}

/-! ## Stages -/

def deleteStages : List DeleteStage := [start, .namespaces, .grants, .workloads, commit]

theorem mem_deleteStages (stage : DeleteStage) : stage ∈ deleteStages := by
  cases stage <;> decide

namespace DeleteStage

/-- What a stage makes of the database it acts on. -/
def attempt (disturbance : Disturbance) (id : Int64) (database : Database) :
    DeleteStage → Except StoreError Database
  | start => atStage disturbance start (.ok database)
  | namespaces =>
      match atStage disturbance namespaces (database.deleteRow id) with
      | .error error => .error error
      | .ok (removed, working) => if removed = 0 then .error (.notFound id) else .ok working
  | grants => atStage disturbance grants (database.deleteGrants id)
  | workloads => atStage disturbance workloads (database.deleteWorkloads id)
  | commit => atStage disturbance commit (.ok database)

theorem attempt_of_disturbed {failure : Failure} (disturbed : disturbance stage = some failure) :
    attempt disturbance id database stage = .error (failure.during stage.context) := by
  cases stage <;> simp only [attempt, atStage, disturbed]

theorem attempt_of_calm (calm : disturbance stage = none) :
    attempt disturbance id database stage = attempt undisturbed id database stage := by
  cases stage <;> simp only [attempt, atStage, calm, undisturbed]

theorem attempt_eq_ok : attempt disturbance id before stage = .ok after ↔
    disturbance stage = none ∧ attempt undisturbed id before stage = .ok after := by
  cases disturbed : disturbance stage with
  | none => simp only [attempt_of_calm disturbed, true_and]
  | some failure => simp only [attempt_of_disturbed disturbed, reduceCtorEq, false_and]

theorem attempt_start : attempt undisturbed id database start = .ok database := rfl

theorem attempt_start_eq_ok : attempt disturbance id before start = .ok after ↔
    disturbance start = none ∧ before = after := by
  rw [attempt_eq_ok, attempt_start, Except.ok.injEq]

theorem attempt_commit : attempt undisturbed id database commit = .ok database := rfl

theorem attempt_namespaces {table : NamespaceTable} (present : database.namespaces = some table) :
    attempt undisturbed id database namespaces =
      if ∃ row ∈ table.rows, row.id = id then
        .ok { database with namespaces := some (table.delete id).2 }
      else .error (.notFound id) := by
  have none : table.rows.countP (·.id == id) = 0 ↔ ¬∃ row ∈ table.rows, row.id = id := by
    simp [List.countP_eq_zero]
  simp only [attempt, atStage, undisturbed, deleteRow, present, Database.present, bind, Except.bind,
    pure, Except.pure, NamespaceTable.delete, none, ite_not]

theorem attempt_namespaces_eq_ok : attempt undisturbed id before namespaces = .ok after ↔
    ∃ table, before.namespaces = some table ∧ (∃ row ∈ table.rows, row.id = id) ∧
      after = { before with namespaces := some (table.delete id).2 } := by
  cases present : before.namespaces with
  | none =>
      simp only [attempt, atStage, undisturbed, deleteRow, present]
      exact ⟨nofun, nofun⟩
  | some table =>
      rw [attempt_namespaces present]
      by_cases row : ∃ row ∈ table.rows, row.id = id
      · rw [if_pos row]
        constructor
        · exact fun done => ⟨table, rfl, row, (Except.ok.inj done).symm⟩
        · rintro ⟨_, ⟨⟩, _, rfl⟩
          rfl
      · rw [if_neg row]
        constructor
        · nofun
        · rintro ⟨_, ⟨⟩, found, _⟩
          exact absurd found row

/-- A statement that changes the rows of one table fails only where the table is missing. -/
theorem atStage_present_eq_ok {table : Table} {held : Option α} {change : α → Database} :
    atStage undisturbed stage (do pure (change (← present table held))) = .ok after ↔
      ∃ rows, held = some rows ∧ after = change rows := by
  cases held with
  | none => exact ⟨nofun, nofun⟩
  | some rows =>
      constructor
      · exact fun done => ⟨rows, rfl, (Except.ok.inj done).symm⟩
      · rintro ⟨_, ⟨⟩, rfl⟩
        rfl

theorem attempt_grants_eq_ok : attempt undisturbed id before grants = .ok after ↔
    ∃ rows, before.grants = some rows ∧
      after = { before with grants := some (rows.filter (·.namespaceId != id)) } :=
  atStage_present_eq_ok

theorem attempt_workloads_eq_ok : attempt undisturbed id before workloads = .ok after ↔
    ∃ rows, before.workloads = some rows ∧
      after = { before with workloads := some (rows.filter (·.namespaceId != id)) } :=
  atStage_present_eq_ok

theorem atStage_ne_notFound (outcome : Except Failure α) (other : Int64) :
    atStage disturbance stage outcome ≠ .error (.notFound other) := by
  unfold atStage
  cases disturbance stage with
  | some failure => nofun
  | none => cases outcome <;> nofun

/-- Only the statement that removes the row can find that there is none. -/
theorem attempt_eq_notFound {other : Int64} :
    attempt disturbance id database stage = .error (.notFound other) ↔
      stage = namespaces ∧ other = id ∧ disturbance namespaces = none ∧
        ∃ table, database.namespaces = some table ∧ ∀ row ∈ table.rows, row.id ≠ id := by
  cases stage with
  | start | commit =>
      exact ⟨fun missing => absurd missing (atStage_ne_notFound (.ok database) other), nofun⟩
  | grants | workloads =>
      exact ⟨fun missing => absurd missing (atStage_ne_notFound _ other), nofun⟩
  | namespaces =>
      cases disturbed : disturbance namespaces with
      | some failure =>
          rw [attempt_of_disturbed disturbed]
          exact ⟨nofun, nofun⟩
      | none =>
          rw [attempt_of_calm disturbed]
          cases present : database.namespaces with
          | none =>
              simp only [attempt, atStage, undisturbed, deleteRow, present]
              exact ⟨nofun, nofun⟩
          | some table =>
              rw [attempt_namespaces present]
              by_cases row : ∃ row ∈ table.rows, row.id = id
              · rw [if_pos row]
                constructor
                · nofun
                · rintro ⟨_, _, _, _, ⟨⟩, none⟩
                  exact row.elim fun row both => absurd both.2 (none row both.1)
              · rw [if_neg row]
                constructor
                · rintro ⟨⟩
                  refine ⟨rfl, rfl, rfl, table, rfl, ?_⟩
                  exact fun other member same => row ⟨other, member, same⟩
                · rintro ⟨_, rfl, _⟩
                  rfl

end DeleteStage

/-- Each stage acts on what the one before it has left. -/
theorem deleteInside_eq_foldlM (disturbance : Disturbance) (database : Database) (id : Int64) :
    deleteInside disturbance database id =
      deleteStages.foldlM (attempt disturbance id) database := by
  simp only [deleteInside, deleteStages, List.foldlM_cons, List.foldlM_nil, attempt, bind,
    Except.bind, pure, Except.pure]
  have begun : atStage disturbance start (.ok database) =
      (atStage disturbance start (.ok ())).map fun _ => database := by
    simp only [atStage]
    cases disturbance start <;> rfl
  rw [begun]
  cases atStage disturbance start (.ok ()) with
  | error error => rfl
  | ok _ =>
      simp only [Except.map]
      rcases atStage disturbance .namespaces (database.deleteRow id) with error | ⟨removed, working⟩
      · rfl
      · by_cases nothing : removed = 0
        · simp only [if_pos nothing]
          rfl
        · simp only [if_neg nothing]
          rcases atStage disturbance .grants (working.deleteGrants id) with error | working
          · rfl
          · simp only
            rcases atStage disturbance .workloads (working.deleteWorkloads id) with error | working
            · rfl
            · simp only
              cases atStage disturbance commit (.ok working) <;> rfl

/-! ## Stages in a row -/

theorem foldlM_attempt_eq_ok {stages : List DeleteStage} :
    stages.foldlM (attempt disturbance id) before = .ok after ↔
      (∀ stage ∈ stages, disturbance stage = none) ∧
        stages.foldlM (attempt undisturbed id) before = .ok after := by
  induction stages generalizing before with
  | nil => simp only [List.not_mem_nil, false_implies, implies_true, true_and, List.foldlM_nil]
  | cons stage rest induction =>
      simp only [List.foldlM_cons, List.forall_mem_cons]
      cases disturbed : disturbance stage with
      | some failure =>
          rw [attempt_of_disturbed disturbed]
          exact ⟨nofun, nofun⟩
      | none =>
          rw [attempt_of_calm disturbed]
          cases attempt undisturbed id before stage with
          | error error => exact ⟨nofun, nofun⟩
          | ok working => exact induction.trans (by simp only [true_and]; rfl)

/-- Stages that would all succeed fail with the first that is disturbed. -/
theorem foldlM_attempt_of_disturbed {stages : List DeleteStage} {failure : Failure}
    (whole : stages.foldlM (attempt undisturbed id) before = .ok after) (member : stage ∈ stages)
    (disturbed : disturbance stage = some failure)
    (calm : ∀ earlier ∈ stages.takeWhile (· ≠ stage), disturbance earlier = none) :
    stages.foldlM (attempt disturbance id) before = .error (failure.during stage.context) := by
  induction stages generalizing before with
  | nil => exact absurd member List.not_mem_nil
  | cons head rest induction =>
      rw [List.foldlM_cons] at whole ⊢
      by_cases same : head = stage
      · rw [same, attempt_of_disturbed disturbed]
        rfl
      · rw [List.takeWhile_cons_of_pos (by simpa using same), List.forall_mem_cons] at calm
        rw [attempt_of_calm calm.1]
        cases attempted : attempt undisturbed id before head with
        | error error =>
            rw [attempted] at whole
            cases whole
        | ok working =>
            rw [attempted] at whole
            exact induction whole ((List.mem_cons.mp member).resolve_left (Ne.symm same)) calm.2

/-- Between two databases: the row goes, and all that names it. -/
structure Deletes (before : Database) (id : Int64) (after : Database) : Prop where
  namespaces : ∃ table, before.namespaces = some table ∧ (∃ row ∈ table.rows, row.id = id) ∧
    after.namespaces = some ⟨table.rows.filter (·.id != id), table.sequence⟩
  grants : ∃ rows, before.grants = some rows ∧
    after.grants = some (rows.filter (·.namespaceId != id))
  workloads : ∃ rows, before.workloads = some rows ∧
    after.workloads = some (rows.filter (·.namespaceId != id))
  rest : after = { before with
    namespaces := after.namespaces
    grants := after.grants
    workloads := after.workloads }

theorem foldlM_deleteStages_eq_ok :
    deleteStages.foldlM (attempt undisturbed id) before = .ok after ↔ Deletes before id after := by
  simp only [deleteStages, List.foldlM_cons, List.foldlM_nil, bind_eq_ok, attempt_start,
    attempt_namespaces_eq_ok, attempt_grants_eq_ok, attempt_workloads_eq_ok, attempt_commit]
  constructor
  · rintro ⟨_, ⟨⟩, _, ⟨table, present, row, rfl⟩, _, ⟨grants, hasGrants, rfl⟩, _,
      ⟨workloads, hasWorkloads, rfl⟩, _, ⟨⟩, ⟨⟩⟩
    exact ⟨⟨table, present, row, rfl⟩, ⟨grants, hasGrants, rfl⟩, ⟨workloads, hasWorkloads, rfl⟩,
      rfl⟩
  · rintro ⟨⟨table, present, row, namespaces⟩, ⟨grants, hasGrants, grantsLeft⟩,
      ⟨workloads, hasWorkloads, workloadsLeft⟩, rest⟩
    rw [namespaces, grantsLeft, workloadsLeft] at rest
    exact ⟨before, rfl, _, ⟨table, present, row, rfl⟩, _, ⟨grants, hasGrants, rfl⟩, _,
      ⟨workloads, hasWorkloads, rfl⟩, _, rfl, congrArg Except.ok rest.symm⟩

/-! ## Transactions -/

/-- A connection to a database. While a transaction is open, statements act on its copy, which is
dropped unless the transaction is committed. -/
structure Session where
  stored : Database
  copy : Option Database

namespace Session

def current (session : Session) : Database :=
  session.copy.getD session.stored

/-- What a stage leaves of the session, given what it makes of the database it acts on. Outside a
transaction a statement would take effect at once. -/
def advance (session : Session) (database : Database) : DeleteStage → Session
  | start => { session with copy := some database }
  | commit => ⟨database, none⟩
  | .namespaces | .grants | .workloads =>
      match session.copy with
      | none => { session with stored := database }
      | some _ => { session with copy := some database }

/-- The stages are gone through up to the first that fails. -/
def goThrough (disturbance : Disturbance) (id : Int64) :
    List DeleteStage → Session → Except StoreError Unit × Session
  | [], session => (.ok (), session)
  | stage :: rest, session =>
      match attempt disturbance id session.current stage with
      | .error error => (.error error, session)
      | .ok database => goThrough disturbance id rest (session.advance database stage)

variable {inner rest : List DeleteStage} {stored copy working : Database} {error : StoreError}

theorem advance_open (between : stage ≠ start ∧ stage ≠ commit) :
    advance ⟨stored, some copy⟩ working stage = ⟨stored, some working⟩ := by
  cases stage with
  | start => exact absurd rfl between.1
  | commit => exact absurd rfl between.2
  | namespaces | grants | workloads => rfl

/-- Inside a transaction only the copy is acted on. -/
theorem goThrough_of_ok (inside : ∀ stage ∈ inner, stage ≠ start ∧ stage ≠ commit)
    (done : inner.foldlM (attempt disturbance id) copy = .ok working) :
    goThrough disturbance id (inner ++ rest) ⟨stored, some copy⟩ =
      goThrough disturbance id rest ⟨stored, some working⟩ := by
  induction inner generalizing copy with
  | nil => rw [Except.ok.inj done, List.nil_append]
  | cons stage inner induction =>
      rw [List.foldlM_cons, bind_eq_ok] at done
      rcases done with ⟨next, attempted, done⟩
      rw [List.forall_mem_cons] at inside
      rw [List.cons_append, goThrough, current, Option.getD_some, attempted]
      simp only [advance_open inside.1]
      exact induction inside.2 done

theorem goThrough_of_error (rest : List DeleteStage) (stored : Database)
    (inside : ∀ stage ∈ inner, stage ≠ start ∧ stage ≠ commit)
    (failed : inner.foldlM (attempt disturbance id) copy = .error error) :
    ∃ working, goThrough disturbance id (inner ++ rest) ⟨stored, some copy⟩ =
      (.error error, ⟨stored, some working⟩) := by
  induction inner generalizing copy with
  | nil => cases failed
  | cons stage inner induction =>
      rw [List.foldlM_cons, bind_eq_error] at failed
      rw [List.forall_mem_cons] at inside
      rw [List.cons_append, goThrough, current, Option.getD_some]
      rcases failed with refused | ⟨next, attempted, failed⟩
      · exact ⟨copy, by rw [refused]⟩
      · rw [attempted]
        simp only [advance_open inside.1]
        exact induction inside.2 failed

theorem stored_of_inside (inside : ∀ stage ∈ inner, stage ≠ start ∧ stage ≠ commit) :
    (goThrough disturbance id inner ⟨stored, some copy⟩).2.stored = stored := by
  rw [← List.append_nil inner]
  cases ended : inner.foldlM (attempt disturbance id) copy with
  | ok working => rw [goThrough_of_ok inside ended, goThrough]
  | error error =>
      rcases goThrough_of_error [] stored inside ended with ⟨working, same⟩
      rw [same]

/-- A deletion that is cut off before its commit has changed nothing that is stored. -/
theorem stored_of_cutOff {count : Nat} (short : count < deleteStages.length) :
    (goThrough disturbance id (deleteStages.take count) ⟨database, none⟩).2.stored = database := by
  have inside : ∀ count < 4, ∀ stage ∈ deleteStages.tail.take count,
      stage ≠ start ∧ stage ≠ commit := by decide
  cases count with
  | zero => rfl
  | succ count =>
      change (goThrough disturbance id (start :: deleteStages.tail.take count) _).2.stored = _
      rw [goThrough]
      cases attempt disturbance id _ start with
      | error error => rfl
      | ok working => exact stored_of_inside (inside count (Nat.lt_of_succ_lt_succ short))

end Session

theorem deleteDisturbed_eq_goThrough (disturbance : Disturbance) (database : Database)
    (id : Int64) : deleteDisturbed disturbance database id =
      let ended := Session.goThrough disturbance id deleteStages ⟨database, none⟩
      (ended.1, ended.2.stored) := by
  let statements : List DeleteStage := [.namespaces, .grants, .workloads]
  have inside : ∀ stage ∈ statements, stage ≠ start ∧ stage ≠ commit := by decide
  have split : deleteStages = start :: (statements ++ [commit]) := rfl
  rw [deleteDisturbed, deleteInside_eq_foldlM, split, Session.goThrough, Session.current,
    Option.getD_none, List.foldlM_cons]
  cases begun : attempt disturbance id database start with
  | error error => rfl
  | ok copy =>
      cases (attempt_eq_ok.mp begun).2
      simp only [bind, Except.bind, Session.advance]
      cases ended : statements.foldlM (attempt disturbance id) database with
      | error error =>
          rcases Session.goThrough_of_error [commit] database inside ended with ⟨working, same⟩
          rw [same, List.foldlM_append, ended]
          rfl
      | ok working =>
          rw [Session.goThrough_of_ok inside ended, List.foldlM_append, ended]
          simp only [bind, Except.bind, List.foldlM_cons, List.foldlM_nil, Session.goThrough,
            Session.current, Option.getD_some, Session.advance]
          cases attempt disturbance id working commit <;> rfl

/-! ## Deletions -/

theorem deleteInside_eq_ok : deleteInside disturbance before id = .ok after ↔
    (∀ stage, disturbance stage = none) ∧ Deletes before id after := by
  rw [deleteInside_eq_foldlM, foldlM_attempt_eq_ok, foldlM_deleteStages_eq_ok]
  constructor
  · exact fun both => ⟨fun stage => both.1 stage (mem_deleteStages stage), both.2⟩
  · exact fun both => ⟨fun stage _ => both.1 stage, both.2⟩

theorem deleteInside_eq_notFound {other : Int64} :
    deleteInside disturbance before id = .error (.notFound other) ↔
      other = id ∧ disturbance start = none ∧ disturbance .namespaces = none ∧
        ∃ table, before.namespaces = some table ∧ ∀ row ∈ table.rows, row.id ≠ id := by
  rw [deleteInside_eq_foldlM]
  simp only [deleteStages, List.foldlM_cons, List.foldlM_nil, bind_eq_error, attempt_eq_notFound,
    attempt_start_eq_ok, reduceCtorEq, false_and, false_or, true_and, and_false, exists_false,
    or_false, pure, Except.pure]
  constructor
  · rintro ⟨_, ⟨calm, rfl⟩, same, missing⟩
    exact ⟨same, calm, missing⟩
  · rintro ⟨same, calm, missing⟩
    exact ⟨before, ⟨calm, rfl⟩, same, missing⟩

theorem fst_deleteDisturbed_eq_ok : (deleteDisturbed disturbance before id).1 = .ok () ↔
    ∃ after, deleteInside disturbance before id = .ok after := by
  rw [deleteDisturbed]
  cases deleteInside disturbance before id with
  | error error => exact ⟨nofun, nofun⟩
  | ok after => exact ⟨fun _ => ⟨after, rfl⟩, fun _ => rfl⟩

theorem fst_deleteDisturbed_eq_error {error : StoreError} :
    (deleteDisturbed disturbance before id).1 = .error error ↔
      deleteInside disturbance before id = .error error := by
  rw [deleteDisturbed]
  cases deleteInside disturbance before id with
  | error other => simp only [Except.error.injEq]
  | ok after => exact ⟨nofun, nofun⟩

/-- What is true of a deletion, whatever disturbs it. -/
structure WholeOrNothing (disturbance : Disturbance) (before : Database) (id : Int64)
    (outcome : Except StoreError Unit) (after : Database) : Prop where
  kept : ∀ error, outcome = .error error → after = before
  deletes : outcome = .ok () → Deletes before id after
  ok_iff : outcome = .ok () ↔
    (∀ stage, disturbance stage = none) ∧ ∃ deleted, Deletes before id deleted
  notFound_iff : ∀ other, outcome = .error (.notFound other) ↔
    other = id ∧ disturbance start = none ∧ disturbance .namespaces = none ∧
      ∃ table, before.namespaces = some table ∧ ∀ row ∈ table.rows, row.id ≠ id
  firstDisturbed : ∀ stage failure, disturbance stage = some failure →
    (∀ earlier ∈ deleteStages.takeWhile (· ≠ stage), disturbance earlier = none) →
    (∃ deleted, Deletes before id deleted) → outcome = .error (failure.during stage.context)
  session : (outcome, after) =
    let ended := Session.goThrough disturbance id deleteStages ⟨before, none⟩
    (ended.1, ended.2.stored)
  cutOff : ∀ count < deleteStages.length,
    (Session.goThrough disturbance id (deleteStages.take count) ⟨before, none⟩).2.stored = before

theorem deletion_is_whole_or_nothing (disturbance : Disturbance) (before : Database) (id : Int64) :
    WholeOrNothing disturbance before id (deleteDisturbed disturbance before id).1
      (deleteDisturbed disturbance before id).2 := by
  constructor
  case kept =>
    intro error failed
    rw [deleteDisturbed, fst_deleteDisturbed_eq_error.mp failed]
  case deletes =>
    intro done
    rcases fst_deleteDisturbed_eq_ok.mp done with ⟨after, ended⟩
    rw [deleteDisturbed, ended]
    exact (deleteInside_eq_ok.mp ended).2
  case ok_iff =>
    simp only [fst_deleteDisturbed_eq_ok, deleteInside_eq_ok, exists_and_left]
  case notFound_iff =>
    intro other
    rw [fst_deleteDisturbed_eq_error, deleteInside_eq_notFound]
  case firstDisturbed =>
    rintro stage failure disturbed calm ⟨deleted, deletes⟩
    rw [fst_deleteDisturbed_eq_error, deleteInside_eq_foldlM]
    exact foldlM_attempt_of_disturbed (foldlM_deleteStages_eq_ok.mpr deletes)
      (mem_deleteStages stage) disturbed calm
  case session => exact deleteDisturbed_eq_goThrough disturbance before id
  case cutOff => exact fun _ short => Session.stored_of_cutOff short

end Tenancy.Database
