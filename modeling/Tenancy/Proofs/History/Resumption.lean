import Tenancy.Proofs.Store.Database
import Tenancy.Proofs.Store.Migration

/-! Bringing a database up again. A run of the migrations may stop after any of its statements, and
once a run has gone through, the stores write to the tables. Until then there are no more states
than statements, as a run that can go on goes on where the last one stopped. -/

namespace Tenancy.Database

open Readable

variable {tables : Tables} {database : Database}

/-! ## Complete databases -/

/-- No unique key has one value in two rows. The constraints of the store say so of all keys but
three. -/
structure Tables.Keyed (tables : Tables) : Prop where
  constrained : tables.Constrained
  usernames : (tables.users.map UserRow.username).Nodup
  codes : (tables.namespaces.rows.map NamespaceRow.code).Nodup
  grants : tables.grants.Nodup

def Statement.index? : Statement → Option String
  | createIndex index _ => some index
  | openLedger | createTable _ | record _ => none

def indexNames : List String :=
  (migrations.flatMap Migration.statements).filterMap Statement.index?

/-- All tables and indexes are there, the keys are unique, and every migration is recorded once. -/
def Complete (database : Database) : Prop :=
  ∃ tables : Tables, tables.database = database ∧
    tables.ledger = migrations.map Migration.name ∧ tables.indexes = indexNames ∧ tables.Keyed

theorem database_injective {other : Tables} (same : other.database = tables.database) :
    other = tables := by
  cases other
  cases tables
  simpa [Tables.database] using same

theorem constrained_of_sound (sound : Sound tables.database) : tables.Constrained := by
  rcases sound with ⟨other, same, constrained⟩
  exact database_injective same ▸ constrained

theorem complete_fresh : Complete fresh :=
  ⟨fresh.held, rfl, rfl, rfl, constrained_of_sound sound_fresh, .nil, .nil, .nil⟩

theorem Complete.opened (complete : Complete database) : database.exists? .ledger = true := by
  rcases complete with ⟨tables, rfl, _⟩
  rfl

theorem Complete.recorded (complete : Complete database) :
    ∀ migration ∈ migrations, database.isRecorded migration = true := by
  rcases complete with ⟨tables, rfl, recorded, _⟩
  intro migration member
  simp only [isRecorded, Tables.database, Option.getD_some, recorded, List.contains_iff_mem]
  exact List.mem_map_of_mem member

/-! ## Writes -/

/-- What the stores write, each in one transaction. -/
inductive Write where
  | insert (draft : Draft)
  | delete (id : Int64)
  | grant (user id : Int64)
  | revoke (user id : Int64)
  | setWorkload (id : Int64) (workload : String) (active : Bool)
  | addUser (user : Principal)

/-- The database after a write, whether it succeeds or fails. -/
def Write.perform : Write → Database → Database
  | insert draft, database => (Store.insert database draft).2
  | delete id, database => (Store.delete database id).2
  | grant user id, database => (Store.grant database user id).2
  | revoke user id, database => (Store.revoke database user id).2
  | setWorkload id workload active, database => (Store.setWorkload database id workload active).2
  | addUser user, database => (Store.addUser database user).2

def performWrites (database : Database) (writes : List Write) : Database :=
  writes.foldl (fun database write => write.perform database) database

theorem sound_perform (sound : Sound database) (write : Write) :
    Sound (write.perform database) := by
  cases write with
  | insert draft => exact (LawfulStore.insert sound draft).sound sound
  | delete id => exact (LawfulStore.delete sound id).sound sound
  | grant user id => exact (LawfulStore.grant sound user id).sound
  | revoke user id => exact (LawfulStore.revoke sound user id).sound
  | setWorkload id workload active =>
      exact (LawfulStore.setWorkload sound id workload active).sound
  | addUser user => exact (LawfulStore.addUser sound user).sound sound

theorem codes_insert {table next : NamespaceTable} {new : NewRow} {row : NamespaceRow}
    (inserted : table.insert new = .ok (row, next))
    (once : (table.rows.map NamespaceRow.code).Nodup) :
    (next.rows.map NamespaceRow.code).Nodup := by
  unfold NamespaceTable.insert NamespaceTable.clash? at inserted
  by_cases taken : table.rows.any (·.isFor new.name new.cluster) = true
  · rw [if_pos taken] at inserted
    cases inserted
  by_cases used : table.rows.any (·.code == new.code) = true
  · rw [if_neg taken, if_pos used] at inserted
    cases inserted
  rw [if_neg taken, if_neg used] at inserted
  cases id : nextId? table.sequence with
  | none => simp [id] at inserted
  | some id =>
      simp only [id, Except.ok.injEq, Prod.mk.injEq] at inserted
      rw [← inserted.2, List.map_append]
      apply List.nodup_append.mpr
      refine ⟨once, List.nodup_singleton _, ?_⟩
      intro code earlier last lastMember equal
      rcases List.mem_map.mp earlier with ⟨other, member, rfl⟩
      rw [List.map_singleton, List.mem_singleton] at lastMember
      exact used (List.any_eq_true.mpr ⟨other, member, beq_iff_eq.mpr (equal.trans lastMember)⟩)

theorem usernames_withUser {user : Principal} (free : userClash? tables.users user = none)
    (once : (tables.users.map UserRow.username).Nodup) :
    ((tables.withUser user).users.map UserRow.username).Nodup := by
  have unused : ∀ row ∈ tables.users, row.username ≠ user.username := by
    intro row member equal
    have used : tables.users.any (·.username == user.username) = true :=
      List.any_eq_true.mpr ⟨row, member, beq_iff_eq.mpr equal⟩
    rw [userClash?, if_pos used] at free
    split at free <;> cases free
  rw [Tables.withUser, List.map_append, List.nodup_append]
  refine ⟨once, List.nodup_singleton _, ?_⟩
  intro username earlier last lastMember
  rcases List.mem_map.mp earlier with ⟨row, member, rfl⟩
  rw [List.map_singleton, List.mem_singleton] at lastMember
  exact lastMember ▸ unused row member

theorem insertNew_nodup [DecidableEq α] {value : α} {values : List α} (once : values.Nodup) :
    (insertNew value values).Nodup := by
  by_cases member : value ∈ values
  · rw [insertNew_of_mem member]
    exact once
  · rw [insertNew, if_neg member, List.nodup_append]
    refine ⟨once, List.nodup_singleton _, ?_⟩
    intro other otherMember last lastMember equal
    rw [List.mem_singleton] at lastMember
    exact member (lastMember ▸ equal ▸ otherMember)

/-- Whatever is written to a complete database, it stays complete. -/
theorem complete_perform (complete : Complete database) (write : Write) :
    Complete (write.perform database) := by
  rcases complete with ⟨tables, rfl, recorded, indexes, keyed⟩
  have sound := sound_perform keyed.constrained.sound write
  cases write with
  | insert draft =>
      simp only [Write.perform, Store.insert, Tables.insert_database] at sound ⊢
      cases inserted : tables.namespaces.insert (.ofDraft draft) with
      | error failure => exact ⟨tables, rfl, recorded, indexes, keyed⟩
      | ok result =>
          rw [inserted] at sound
          exact ⟨{ tables with namespaces := result.2 }, rfl, recorded, indexes,
            constrained_of_sound sound, keyed.usernames, codes_insert inserted keyed.codes,
            keyed.grants⟩
  | delete id =>
      simp only [Write.perform, Store.delete, Tables.delete_database] at sound ⊢
      split at sound
      · next present =>
          rw [if_pos present]
          exact ⟨tables.without id, rfl, recorded, indexes, constrained_of_sound sound,
            keyed.usernames, keyed.codes.sublist (List.filter_sublist.map _),
            keyed.grants.sublist List.filter_sublist⟩
      · next absent =>
          rw [if_neg absent]
          exact ⟨tables, rfl, recorded, indexes, keyed⟩
  | grant user id =>
      exact ⟨{ tables with grants := insertNew ⟨user, id⟩ tables.grants }, rfl, recorded, indexes,
        constrained_of_sound sound, keyed.usernames, keyed.codes, insertNew_nodup keyed.grants⟩
  | revoke user id =>
      exact ⟨{ tables with grants := remove ⟨user, id⟩ tables.grants }, rfl, recorded, indexes,
        constrained_of_sound sound, keyed.usernames, keyed.codes,
        keyed.grants.sublist List.filter_sublist⟩
  | setWorkload id workload active =>
      exact ⟨tables.withReference ⟨id, workload, active⟩, rfl, recorded, indexes,
        constrained_of_sound sound, keyed.usernames, keyed.codes, keyed.grants⟩
  | addUser user =>
      simp only [Write.perform, Store.addUser, Tables.addUser_database] at sound ⊢
      cases clash : userClash? tables.users user with
      | some key => exact ⟨tables, rfl, recorded, indexes, keyed⟩
      | none =>
          rw [clash] at sound
          exact ⟨tables.withUser user, rfl, recorded, indexes, constrained_of_sound sound,
            usernames_withUser clash keyed.usernames, keyed.codes, keyed.grants⟩

theorem complete_performWrites (complete : Complete database) (writes : List Write) :
    Complete (database.performWrites writes) := by
  induction writes generalizing database with
  | nil => exact complete
  | cons write rest induction => exact induction (complete_perform complete write)

/-! ## Stages

A first run that is cut off leaves the database at one of these. -/

def script : List PlannedStatement := empty.plan

def stage (count : Nat) : Database := empty.migrateUpTo count

theorem script_performed : empty.performAll script = (.ok (), fresh) := rfl

theorem performAll_script (count : Nat) :
    empty.performAll (script.take count) = (.ok (), stage count) :=
  Prod.ext (performAll_take (congrArg Prod.fst script_performed) count) rfl

theorem stage_add (count more : Nat) :
    ((stage count).performAll ((script.drop count).take more)).2 = stage (count + more) := by
  rw [← performAll_append (performAll_script count), ← List.take_add, performAll_script]

theorem performAll_drop_script (count : Nat) :
    (stage count).performAll (script.drop count) = (.ok (), fresh) := by
  rw [← performAll_append (performAll_script count), List.take_append_drop, script_performed]

theorem stage_of_length_le {count : Nat} (enough : script.length ≤ count) :
    stage count = fresh := by
  have whole := performAll_script count
  rw [List.take_of_length_le enough, script_performed] at whole
  exact (congrArg Prod.snd whole).symm

theorem opened_stage : ∀ count ≤ script.length, 0 < count →
    (stage count).exists? .ledger = true := by
  decide +kernel

/-- What is not torn goes on with the rest of the script. -/
theorem torn_or_plan_stage : ∀ count ≤ script.length,
    (stage count).isTorn = true ∨ (stage count).plan = opening :: script.drop (max 1 count) := by
  decide +kernel

theorem plan_stage {count : Nat} (bounded : count ≤ script.length) (started : 0 < count)
    (whole : (stage count).isTorn = false) :
    (stage count).plan = opening :: script.drop count := by
  rcases torn_or_plan_stage count bounded with torn | planned
  · rw [torn] at whole
    cases whole
  · rwa [Nat.max_eq_right started] at planned

theorem migrate_stage {count : Nat} (bounded : count ≤ script.length)
    (whole : (stage count).isTorn = false) : (stage count).migrate = (.ok (), fresh) := by
  rcases Nat.eq_zero_or_pos count with rfl | started
  · exact script_performed
  · rw [migrate, plan_stage bounded started whole,
      performAll_opening (opened_stage count bounded started), performAll_drop_script]

theorem exists_stage (count : Nat) : ∃ reached ≤ script.length, stage count = stage reached := by
  by_cases bounded : count ≤ script.length
  · exact ⟨count, bounded, rfl⟩
  · refine ⟨script.length, Nat.le_refl _, ?_⟩
    rw [stage_of_length_le (Nat.le_of_not_le bounded), stage_of_length_le (Nat.le_refl _)]

/-- A run from a stage, however soon it is cut off, leaves a stage. -/
theorem migrateUpTo_stage {count : Nat} (bounded : count ≤ script.length) (more : Nat) :
    ∃ reached ≤ script.length, (stage count).migrateUpTo more = stage reached := by
  rcases Nat.eq_zero_or_pos count with rfl | started
  · exact exists_stage more
  cases whole : (stage count).isTorn with
  | true =>
      -- the run fails on the table before it changes anything
      rcases exists_torn_of_isTorn whole with ⟨migration, table, torn⟩
      exact ⟨count, bounded, migrateUpTo_of_torn torn more⟩
  | false =>
      rw [migrateUpTo, plan_stage bounded started whole]
      cases more with
      | zero => exact ⟨count, bounded, rfl⟩
      | succ more =>
          rw [List.take_succ_cons, performAll_opening (opened_stage count bounded started),
            stage_add]
          exact exists_stage (count + more)

/-! ## Histories -/

/-- The states a database gets into. The flag tells whether a run of the migrations has gone through
by then, as the stores write to no database before. -/
inductive Reached : Bool → Database → Prop
  | empty : Reached false empty
  | stopped {completed : Bool} {database : Database} (earlier : Reached completed database)
      (count : Nat) : Reached completed (database.migrateUpTo count)
  | migrated {completed : Bool} {database : Database} (earlier : Reached completed database)
      (succeeded : database.migrate.1 = .ok ()) : Reached true database.migrate.2
  | written {database : Database} (earlier : Reached true database) (write : Write) :
      Reached true (write.perform database)

theorem Reached.performWrites (reached : Reached true database) (writes : List Write) :
    Reached true (database.performWrites writes) := by
  induction writes generalizing database with
  | nil => exact reached
  | cons write rest induction => exact induction (reached.written write)

theorem Reached.cases {completed : Bool} (reached : Reached completed database) :
    (completed = false ∧ ∃ count ≤ script.length, database = stage count) ∨ Complete database := by
  induction reached with
  | empty => exact .inl ⟨rfl, 0, Nat.zero_le _, rfl⟩
  | @stopped completed database earlier count induction =>
      rcases induction with ⟨early, before, bounded, rfl⟩ | complete
      · exact .inl ⟨early, migrateUpTo_stage bounded count⟩
      · rw [migrateUpTo_of_recorded complete.opened complete.recorded]
        exact .inr complete
  | @migrated completed database earlier succeeded induction =>
      rcases induction with ⟨_, count, bounded, rfl⟩ | complete
      · cases whole : (stage count).isTorn with
        | true =>
            rcases exists_torn_of_isTorn whole with ⟨migration, table, torn⟩
            rw [migrate_of_torn torn] at succeeded
            cases succeeded
        | false =>
            rw [migrate_stage bounded whole]
            exact .inr complete_fresh
      · rw [migrate_of_recorded complete.opened complete.recorded]
        exact .inr complete
  | @written database earlier write induction =>
      rcases induction with ⟨early, _⟩ | complete
      · cases early
      · exact .inr (complete_perform complete write)

theorem Complete.not_torn (complete : Complete database) (migration : Migration) (table : Table) :
    ¬Torn database migration table := by
  intro torn
  have unrecorded := List.find?_some torn.next
  rw [complete.recorded migration (List.mem_of_find?_eq_some torn.next)] at unrecorded
  cases unrecorded

/-- No run of the migrations loses anything, wherever it stops. Unless it comes upon a migration
that an earlier run has torn, a run that is not cut off succeeds. It leaves a database that is
complete and stays so whatever is written, and to which a further run does nothing. A torn
migration, which is only met before any run has gone through, makes every later run fail on its
table, and no run ever changes the database again. -/
theorem migrations_resume_unless_torn {completed : Bool} {database : Database}
    (reached : Reached completed database) :
    (∀ count, database.Keeps (database.migrateUpTo count)) ∧
    ((∀ migration table, ¬Torn database migration table) →
      database.migrate.1 = .ok () ∧ database.Keeps database.migrate.2 ∧
        database.migrate.2.migrate = (.ok (), database.migrate.2) ∧
        ∀ writes, Complete (database.migrate.2.performWrites writes)) ∧
    (completed = true → Complete database ∧ database.migrate = (.ok (), database)) ∧
    ∀ migration table, Torn database migration table →
      completed = false ∧ (∀ count, database.migrateUpTo count = database) ∧
        database.migrate =
          (.error (.system
            ("Migration " ++ migration.name ++ " failed: " ++ (Failure.tableExists table).text)),
            database) := by
  have again (complete : Complete database) : database.migrate = (.ok (), database) :=
    migrate_of_recorded complete.opened complete.recorded
  refine ⟨fun count => keeps_performAll database _, ?_, ?_, ?_⟩
  · intro whole
    have done : database.migrate.1 = .ok () ∧ Complete database.migrate.2 := by
      rcases reached.cases with ⟨_, count, bounded, rfl⟩ | complete
      · have untorn : (stage count).isTorn = false := by
          rw [← Bool.not_eq_true]
          intro torn
          rcases exists_torn_of_isTorn torn with ⟨migration, table, torn⟩
          exact whole migration table torn
        rw [migrate_stage bounded untorn]
        exact ⟨rfl, complete_fresh⟩
      · rw [again complete]
        exact ⟨rfl, complete⟩
    exact ⟨done.1, keeps_performAll database _,
      migrate_of_recorded done.2.opened done.2.recorded, complete_performWrites done.2⟩
  · intro done
    rcases reached.cases with ⟨early, _⟩ | complete
    · rw [done] at early
      cases early
    · exact ⟨complete, again complete⟩
  · intro migration table torn
    refine ⟨?_, migrateUpTo_of_torn torn, migrate_of_torn torn⟩
    rcases reached.cases with ⟨early, _⟩ | complete
    · exact early
    · exact absurd torn (complete.not_torn migration table)

/-- The first run is cut off once it has created the users, before it records that it has. -/
theorem users_table_stops_migrations :
    Reached false (empty.migrateUpTo 2) ∧
    (empty.migrateUpTo 2).migrate =
      (.error (.system ("Migration 001_create_users_table failed: " ++
        "error returned from database: (code: 1) table users already exists")),
        empty.migrateUpTo 2) :=
  ⟨Reached.empty.stopped 2, by decide +kernel⟩

/-! The first run stops between two migrations and the second goes through. Then the stores write,
and a third run is cut off at its first statement. -/

def restarted : Database := (empty.migrateUpTo 3).migrate.2

def inUse : Database :=
  performWrites restarted [
    .addUser ⟨1, "alice", .admin⟩,
    .insert ⟨7, "team-x", 100, 1, .epoch⟩,
    .insert ⟨7, "team-y", 100, 1, .epoch⟩,
    .grant 2 1,
    .setWorkload 1 "etl" true]

theorem reached_inUse : Reached true (inUse.migrateUpTo 1) := by
  have restarts : Reached true restarted := (Reached.empty.stopped 3).migrated (by decide +kernel)
  exact (restarts.performWrites _).stopped 1

theorem database_in_use_migrates :
    let database := inUse.migrateUpTo 1
    Complete database ∧ database.migrate = (.ok (), database) ∧
      database.hasActive 1 = .ok true := by
  intro database
  have done := (migrations_resume_unless_torn reached_inUse).2.2.1 rfl
  exact ⟨done.1, done.2, by decide +kernel⟩

end Tenancy.Database
