import Tenancy.Database.Migration

/-! What a run of the migrations comes to. Every statement takes effect on its own, so a run that is
cut off leaves a beginning of its plan done. No run loses anything. But a migration starts by
creating a table, so one that was begun and not recorded stands in the way of every later run. -/

namespace Tenancy.Database

variable {database after : Database}

/-! ## What is kept -/

/-- What is recorded stays recorded, and every table that is there stays with its rows. -/
structure Keeps (before after : Database) : Prop where
  ledger : before.ledger.getD [] <+: after.ledger.getD []
  users : before.users = none ∨ after.users = before.users
  namespaces : before.namespaces = none ∨ after.namespaces = before.namespaces
  grants : before.grants = none ∨ after.grants = before.grants
  workloads : before.workloads = none ∨ after.workloads = before.workloads
  indexes : before.indexes <+: after.indexes

namespace Keeps

theorem refl (database : Database) : database.Keeps database :=
  ⟨List.prefix_refl _, .inr rfl, .inr rfl, .inr rfl, .inr rfl, List.prefix_refl _⟩

/-- A table that was there before the first step is there before the second. -/
theorem kept_trans {before middle after : Option α} (first : before = none ∨ middle = before)
    (second : middle = none ∨ after = middle) : before = none ∨ after = before := by
  rcases first with absent | rfl
  · exact .inl absent
  · exact second

theorem trans {middle : Database} (first : database.Keeps middle) (second : middle.Keeps after) :
    database.Keeps after :=
  ⟨first.ledger.trans second.ledger, kept_trans first.users second.users,
    kept_trans first.namespaces second.namespaces, kept_trans first.grants second.grants,
    kept_trans first.workloads second.workloads, first.indexes.trans second.indexes⟩

end Keeps

theorem keeps_create {table : Table} (absent : database.exists? table = false) :
    database.Keeps (database.create table) := by
  cases table with
  | ledger =>
      refine { Keeps.refl database with ledger := ?_ }
      have nothing : database.ledger = none := by simpa [exists?] using absent
      rw [nothing]
      exact List.nil_prefix
  | users =>
      exact { Keeps.refl database with users := .inl (by simpa [exists?] using absent) }
  | namespaces =>
      exact { Keeps.refl database with namespaces := .inl (by simpa [exists?] using absent) }
  | grants =>
      exact { Keeps.refl database with grants := .inl (by simpa [exists?] using absent) }
  | workloads =>
      exact { Keeps.refl database with workloads := .inl (by simpa [exists?] using absent) }

theorem keeps_perform {statement : Statement} (performed : database.perform statement = .ok after) :
    database.Keeps after := by
  cases statement with
  | openLedger =>
      cases performed
      by_cases opened : database.exists? .ledger = true
      · rw [if_pos opened]
        exact .refl database
      · rw [if_neg opened]
        exact keeps_create (Bool.not_eq_true _ ▸ opened)
  | createTable table =>
      by_cases there : database.exists? table = true
      · simp [perform, there] at performed
      · simp only [perform, if_neg there, Except.ok.injEq] at performed
        exact performed ▸ keeps_create (Bool.not_eq_true _ ▸ there)
  | createIndex index table =>
      simp only [perform] at performed
      split at performed
      · cases performed
      split at performed
      · cases performed
        exact { Keeps.refl database with indexes := List.prefix_append _ _ }
      · cases performed
  | record migration =>
      simp only [perform] at performed
      cases ledger : database.ledger with
      | none => simp [ledger, present, bind, Except.bind] at performed
      | some recorded =>
          simp only [ledger, present, bind, Except.bind, pure, Except.pure, Except.ok.injEq]
            at performed
          subst performed
          refine { Keeps.refl database with ledger := ?_ }
          rw [ledger]
          exact List.prefix_append _ _

/-- However a run ends, nothing is lost in it. -/
theorem keeps_performAll (database : Database) (plan : List PlannedStatement) :
    database.Keeps (database.performAll plan).2 := by
  induction plan generalizing database with
  | nil => exact .refl database
  | cons planned rest induction =>
      simp only [performAll]
      cases performed : database.perform planned.statement with
      | error failure => exact .refl database
      | ok next => exact (keeps_perform performed).trans (induction next)

/-! ## Runs cut off -/

theorem performAll_append {first : List PlannedStatement}
    (done : database.performAll first = (.ok (), after)) (second : List PlannedStatement) :
    database.performAll (first ++ second) = after.performAll second := by
  induction first generalizing database with
  | nil =>
      cases done
      rfl
  | cons planned rest induction =>
      simp only [List.cons_append, performAll] at done ⊢
      cases performed : database.perform planned.statement with
      | error failure => simp [performed] at done
      | ok next =>
          rw [performed] at done
          exact induction done

theorem performAll_append_of_error {first : List PlannedStatement} {error : SystemError}
    (failed : database.performAll first = (.error error, after)) (second : List PlannedStatement) :
    database.performAll (first ++ second) = (.error error, after) := by
  induction first generalizing database with
  | nil => cases failed
  | cons planned rest induction =>
      simp only [List.cons_append, performAll] at failed ⊢
      cases performed : database.perform planned.statement with
      | error failure =>
          rw [performed] at failed
          exact failed
      | ok next =>
          rw [performed] at failed
          exact induction failed

/-- Where a whole plan is done, so is every beginning of it. -/
theorem performAll_take {plan : List PlannedStatement}
    (done : (database.performAll plan).1 = .ok ()) (count : Nat) :
    (database.performAll (plan.take count)).1 = .ok () := by
  induction plan generalizing database count with
  | nil => simpa using done
  | cons planned rest induction =>
      cases count with
      | zero => rfl
      | succ count =>
          simp only [List.take_succ_cons, performAll] at done ⊢
          cases performed : database.perform planned.statement with
          | error failure => simp [performed] at done
          | ok next =>
              rw [performed] at done
              exact induction done count

theorem performAll_of_failed {planned : PlannedStatement} {failure : Failure}
    (failed : database.perform planned.statement = .error failure)
    (rest : List PlannedStatement) :
    database.performAll (planned :: rest) =
      (.error (.system (planned.context ++ ": " ++ failure.text)), database) := by
  simp only [performAll, failed]

/-! ## The ledger -/

def opening : PlannedStatement := ⟨.openLedger, "Failed to create migrations table"⟩

theorem performAll_opening (opened : database.exists? .ledger = true)
    (rest : List PlannedStatement) :
    database.performAll (opening :: rest) = database.performAll rest := by
  simp only [opening, performAll, perform, if_pos opened]

/-- What a statement adds to the ledger. -/
def Statement.recorded : Statement → List String
  | record migration => [migration]
  | openLedger | createTable _ | createIndex .. => []

theorem ledger_perform {statement : Statement}
    (performed : database.perform statement = .ok after) :
    after.ledger.getD [] = database.ledger.getD [] ++ statement.recorded := by
  cases statement with
  | openLedger =>
      cases performed
      cases ledger : database.ledger <;> simp [exists?, create, ledger, Statement.recorded]
  | createTable table =>
      simp only [perform] at performed
      split at performed
      · cases performed
      · next absent =>
          cases performed
          cases table <;> simp_all [exists?, create, Statement.recorded]
  | createIndex index table =>
      simp only [perform] at performed
      split at performed
      · cases performed
      split at performed
      · cases performed
        exact (List.append_nil _).symm
      · cases performed
  | record migration =>
      simp only [perform] at performed
      cases ledger : database.ledger with
      | none => simp [ledger, present, bind, Except.bind] at performed
      | some recorded =>
          simp only [ledger, present, bind, Except.bind, pure, Except.pure, Except.ok.injEq]
            at performed
          subst performed
          rfl

theorem ledger_performAll {plan : List PlannedStatement}
    (done : database.performAll plan = (.ok (), after)) :
    after.ledger.getD [] =
      database.ledger.getD [] ++ plan.flatMap fun planned => planned.statement.recorded := by
  induction plan generalizing database with
  | nil =>
      cases done
      simp
  | cons planned rest induction =>
      simp only [performAll] at done
      cases performed : database.perform planned.statement with
      | error failure => simp [performed] at done
      | ok next =>
          rw [performed] at done
          rw [induction done, ledger_perform performed, List.flatMap_cons, List.append_assoc]

/-- A migration records itself and nothing else. -/
theorem recorded_plan : ∀ migration ∈ migrations,
    (migration.plan.flatMap fun planned => planned.statement.recorded) = [migration.name] := by
  decide

theorem migrations_once : (migrations.map Migration.name).Nodup := by
  decide

/-! ### One migration at a time

The plan is made before the first statement. Asking the ledger about each migration when its turn
comes makes no difference, as no migration records another. -/

def runMigration (database : Database) (migration : Migration) :
    Except SystemError Unit × Database :=
  if database.isRecorded migration then (.ok (), database) else database.performAll migration.plan

def runInTurn (database : Database) : List Migration → Except SystemError Unit × Database
  | [] => (.ok (), database)
  | migration :: rest =>
      match database.runMigration migration with
      | (.ok (), next) => next.runInTurn rest
      | (.error error, next) => (.error error, next)

theorem isRecorded_of_performed {migration other : Migration} (member : migration ∈ migrations)
    (different : other.name ≠ migration.name)
    (done : database.performAll migration.plan = (.ok (), after)) :
    after.isRecorded other = database.isRecorded other := by
  rw [isRecorded, ledger_performAll done, recorded_plan migration member, isRecorded]
  simp [different]

theorem performAll_eq_runInTurn {left : List Migration} (known : left ⊆ migrations)
    (once : (left.map Migration.name).Nodup) (database : Database) :
    database.performAll ((left.filter (!database.isRecorded ·)).flatMap Migration.plan) =
      database.runInTurn left := by
  induction left generalizing database with
  | nil => rfl
  | cons migration rest induction =>
      have parts := List.nodup_cons.mp once
      have restKnown : rest ⊆ migrations := List.subset_of_cons_subset known
      by_cases recorded : database.isRecorded migration = true
      · rw [List.filter_cons_of_neg (by simp [recorded]), runInTurn, runMigration, if_pos recorded]
        exact induction restKnown parts.2 database
      · rw [List.filter_cons_of_pos (by simp [recorded]), List.flatMap_cons, runInTurn,
          runMigration, if_neg recorded]
        rcases done : database.performAll migration.plan with ⟨outcome, next⟩
        cases outcome with
        | error error => exact performAll_append_of_error done _
        | ok _ =>
            have same :
                rest.filter (!database.isRecorded ·) = rest.filter (!next.isRecorded ·) := by
              apply List.filter_congr
              intro other member
              have different : other.name ≠ migration.name :=
                fun equal => parts.1 (equal ▸ List.mem_map_of_mem member)
              rw [isRecorded_of_performed (known List.mem_cons_self) different done]
            rw [performAll_append done, same]
            exact induction restKnown parts.2 next

theorem migrate_eq_runInTurn (opened : database.exists? .ledger = true) :
    database.migrate = database.runInTurn migrations := by
  rw [migrate, plan]
  exact (performAll_opening opened _).trans
    (performAll_eq_runInTurn (List.Subset.refl _) migrations_once database)

/-! ## Torn migrations -/

/-- The next migration was begun, as its table is there, and it was not recorded. -/
structure Torn (database : Database) (migration : Migration) (table : Table) : Prop where
  opened : database.exists? .ledger = true
  next : migrations.find? (!database.isRecorded ·) = some migration
  first : migration.statements.head? = some (.createTable table)
  there : database.exists? table = true

def isTorn (database : Database) : Bool :=
  match migrations.find? (!database.isRecorded ·) with
  | none => false
  | some migration =>
      match migration.statements.head? with
      | some (.createTable table) => database.exists? .ledger && database.exists? table
      | _ => false

theorem exists_torn_of_isTorn (torn : database.isTorn = true) :
    ∃ migration table, Torn database migration table := by
  unfold isTorn at torn
  split at torn
  · cases torn
  next migration next =>
    split at torn
    · next table first =>
        rw [Bool.and_eq_true] at torn
        exact ⟨migration, table, torn.1, next, first, torn.2⟩
    · cases torn

variable {migration : Migration} {table : Table}

theorem plan_of_torn (torn : Torn database migration table) :
    ∃ rest, database.plan =
      opening :: ⟨.createTable table, "Migration " ++ migration.name ++ " failed"⟩ :: rest := by
  have head : (migrations.filter (!database.isRecorded ·)).head? = some migration :=
    List.head?_filter.trans torn.next
  rcases List.head?_eq_some_iff.mp head with ⟨later, left⟩
  rcases List.head?_eq_some_iff.mp torn.first with ⟨statements, first⟩
  rw [plan, left, List.flatMap_cons, Migration.plan, first, List.map_cons, List.cons_append,
    List.cons_append]
  exact ⟨_, rfl⟩

theorem perform_of_there (there : database.exists? table = true) :
    database.perform (.createTable table) = .error (.tableExists table) :=
  if_pos there

/-- A run that comes upon a torn migration fails and does nothing. -/
theorem migrate_of_torn (torn : Torn database migration table) :
    database.migrate =
      (.error (.system
        ("Migration " ++ migration.name ++ " failed: " ++ (Failure.tableExists table).text)),
        database) := by
  rcases plan_of_torn torn with ⟨rest, planned⟩
  rw [migrate, planned, performAll_opening torn.opened,
    performAll_of_failed (perform_of_there torn.there)]
  simp [String.append_assoc]

theorem migrateUpTo_of_torn (torn : Torn database migration table) (count : Nat) :
    database.migrateUpTo count = database := by
  rcases plan_of_torn torn with ⟨rest, planned⟩
  rw [migrateUpTo, planned]
  cases count with
  | zero => rfl
  | succ count =>
      rw [List.take_succ_cons, performAll_opening torn.opened]
      cases count with
      | zero => rfl
      | succ count => rw [List.take_succ_cons, performAll_of_failed (perform_of_there torn.there)]

/-! ## Runs with nothing left to do -/

theorem plan_of_recorded
    (recorded : ∀ migration ∈ migrations, database.isRecorded migration = true) :
    database.plan = [opening] := by
  have nothing : migrations.filter (!database.isRecorded ·) = [] := by
    rw [List.filter_eq_nil_iff]
    intro migration member
    simp [recorded migration member]
  rw [plan, nothing]
  rfl

theorem migrate_of_recorded (opened : database.exists? .ledger = true)
    (recorded : ∀ migration ∈ migrations, database.isRecorded migration = true) :
    database.migrate = (.ok (), database) := by
  rw [migrate, plan_of_recorded recorded, performAll_opening opened]
  rfl

theorem migrateUpTo_of_recorded (opened : database.exists? .ledger = true)
    (recorded : ∀ migration ∈ migrations, database.isRecorded migration = true) (count : Nat) :
    database.migrateUpTo count = database := by
  rw [migrateUpTo, plan_of_recorded recorded]
  cases count with
  | zero => rfl
  | succ count =>
      rw [List.take_succ_cons, List.take_nil, performAll_opening opened]
      rfl

end Tenancy.Database
