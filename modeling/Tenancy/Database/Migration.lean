import Tenancy.Database.Tables

/-! Migrations bring an empty database to the tables the store works on. Each is a run of statements
followed by an entry in the ledger, and every statement takes effect on its own. -/

namespace Tenancy.Database

inductive Statement where
  /-- Creates the ledger unless it is there. -/
  | openLedger
  | createTable (table : Table)
  | createIndex (index : String) (on : Table)
  | record (migration : String)
  deriving DecidableEq, Repr

structure Migration where
  name : String
  statements : List Statement
  deriving DecidableEq, Repr

def migrations : List Migration := [
  ⟨"001_create_users_table", [.createTable .users]⟩,
  ⟨"002_create_k8s_namespaces_table", [
    .createTable .namespaces,
    .createIndex "idx_k8s_namespaces_owner" .namespaces,
    .createIndex "idx_k8s_namespaces_created" .namespaces]⟩,
  ⟨"003_create_namespace_grants_table", [
    .createTable .grants,
    .createIndex "idx_namespace_grants_namespace" .grants]⟩,
  ⟨"004_create_namespace_workload_refs_table", [.createTable .workloads]⟩]

/-! ## Statements -/

def exists? (database : Database) : Table → Bool
  | .ledger => database.ledger.isSome
  | .users => database.users.isSome
  | .namespaces => database.namespaces.isSome
  | .grants => database.grants.isSome
  | .workloads => database.workloads.isSome

def create (database : Database) : Table → Database
  | .ledger => { database with ledger := some [] }
  | .users => { database with users := some [] }
  | .namespaces => { database with namespaces := some ⟨[], 0⟩ }
  | .grants => { database with grants := some [] }
  | .workloads => { database with workloads := some [] }

def perform (database : Database) : Statement → Except Failure Database
  | .openLedger => .ok (if database.exists? .ledger then database else database.create .ledger)
  | .createTable table =>
      if database.exists? table then .error (.tableExists table) else .ok (database.create table)
  | .createIndex index table =>
      if index ∈ database.indexes then .error (.indexExists index)
      else if database.exists? table then .ok { database with indexes := database.indexes ++ [index] }
      else .error (.noSuchTable table)
  | .record migration => do
      let recorded ← present .ledger database.ledger
      pure { database with ledger := some (recorded ++ [migration]) }

/-! ## Running the migrations

A statement belongs to the migration whose failure it is reported as. -/

structure PlannedStatement where
  statement : Statement
  /-- What a failure of the statement is reported as. -/
  context : String
  deriving DecidableEq, Repr

def Migration.plan (migration : Migration) : List PlannedStatement :=
  migration.statements.map (⟨·, "Migration " ++ migration.name ++ " failed"⟩) ++
    [⟨.record migration.name, "Failed to record migration"⟩]

def isRecorded (database : Database) (migration : Migration) : Bool :=
  (database.ledger.getD []).contains migration.name

/-- The statements a run has left to do, in order. -/
def plan (database : Database) : List PlannedStatement :=
  ⟨.openLedger, "Failed to create migrations table"⟩ ::
    (migrations.filter (!database.isRecorded ·)).flatMap Migration.plan

/-- Statements are performed up to the first that fails; the earlier ones keep their effect. -/
def performAll (database : Database) : List PlannedStatement → Except SystemError Unit × Database
  | [] => (.ok (), database)
  | planned :: rest =>
      match database.perform planned.statement with
      | .ok database => database.performAll rest
      | .error failure => (.error (.system (planned.context ++ ": " ++ failure.text)), database)

def migrate (database : Database) : Except SystemError Unit × Database :=
  database.performAll database.plan

/-- A run that stops once it has performed a number of statements. -/
def migrateUpTo (count : Nat) (database : Database) : Database :=
  (database.performAll (database.plan.take count)).2

/-- A new database with all migrations done. -/
def fresh : Database := empty.migrate.2

example : empty.migrate.1 = .ok () ∧ fresh.migrate = (.ok (), fresh) := ⟨rfl, rfl⟩

end Tenancy.Database
