import Tenancy.Database.Directory
import Tenancy.Database.Migration
import Tenancy.Proofs.Store.Lawful

/-! A database with all its tables is a lawful store. Its operations are stated on the tables first:
with none of them absent, each statement comes down to what it does to its own table. -/

namespace Tenancy.Database

/-- The tables of a database once its migrations are done. -/
structure Tables where
  ledger : List String
  users : List UserRow
  namespaces : NamespaceTable
  grants : List GrantRow
  workloads : List WorkloadRow
  indexes : List String

def WorkloadRow.key (row : WorkloadRow) : Int64 × String :=
  (row.namespaceId, row.workload)

/-! ## Workload references

Setting a reference replaces the one with its key, if there is one. -/

theorem setReference_same {head setting : WorkloadRow} (same : head.key = setting.key)
    (rest : List WorkloadRow) : setReference (head :: rest) setting = setting :: rest :=
  if_pos (Prod.mk.injEq .. ▸ same)

theorem setReference_different {head setting : WorkloadRow} (different : head.key ≠ setting.key)
    (rest : List WorkloadRow) :
    setReference (head :: rest) setting = head :: setReference rest setting :=
  if_neg (Prod.mk.injEq .. ▸ different)

theorem mem_setReference {rows : List WorkloadRow} (once : (rows.map WorkloadRow.key).Nodup)
    (setting row : WorkloadRow) :
    row ∈ setReference rows setting ↔ row = setting ∨ (row ∈ rows ∧ row.key ≠ setting.key) := by
  induction rows with
  | nil => simp [setReference]
  | cons head rest induction =>
      have parts := List.nodup_cons.mp once
      by_cases same : head.key = setting.key
      · rw [setReference_same same, List.mem_cons, List.mem_cons]
        constructor
        · intro either
          rcases either with equal | later
          · exact .inl equal
          · refine .inr ⟨.inr later, fun equal => parts.1 ?_⟩
            exact same.trans equal.symm ▸ List.mem_map_of_mem later
        · intro either
          rcases either with equal | ⟨equal | later, different⟩
          · exact .inl equal
          · exact absurd (equal ▸ same) different
          · exact .inr later
      · rw [setReference_different same, List.mem_cons, List.mem_cons, induction parts.2]
        constructor
        · intro either
          rcases either with rfl | equal | ⟨later, different⟩
          · exact .inr ⟨.inl rfl, same⟩
          · exact .inl equal
          · exact .inr ⟨.inr later, different⟩
        · intro either
          rcases either with equal | ⟨equal | later, different⟩
          · exact .inr (.inl equal)
          · exact .inl equal
          · exact .inr (.inr ⟨later, different⟩)

theorem setReference_nodup {rows : List WorkloadRow} (once : (rows.map WorkloadRow.key).Nodup)
    (setting : WorkloadRow) : ((setReference rows setting).map WorkloadRow.key).Nodup := by
  induction rows with
  | nil => simp [setReference]
  | cons head rest induction =>
      have parts := List.nodup_cons.mp once
      by_cases same : head.key = setting.key
      · rw [setReference_same same, List.map_cons, ← same]
        exact once
      · rw [setReference_different same, List.map_cons, List.nodup_cons]
        refine ⟨?_, induction parts.2⟩
        intro later
        rcases List.mem_map.mp later with ⟨row, member, equal⟩
        rcases (mem_setReference parts.2 setting row).mp member with rfl | ⟨kept, _⟩
        · exact same equal.symm
        · exact parts.1 (equal ▸ List.mem_map_of_mem kept)

/-! ## Users -/

theorem unused_of_userClash? {users : List UserRow} {user : Principal}
    (free : userClash? users user = none) : ∀ row ∈ users, row.id ≠ user.id := by
  intro row member equal
  have used : users.any (·.id == user.id) = true :=
    List.any_eq_true.mpr ⟨row, member, beq_iff_eq.mpr equal⟩
  rw [userClash?, if_pos used] at free
  cases free

theorem used_of_userClash? {users : List UserRow} {user : Principal} {key : UniqueKey}
    (clash : userClash? users user = some key) :
    ∃ row ∈ users, row.id = user.id ∨ row.username = user.username := by
  rw [userClash?] at clash
  by_cases id : users.any (·.id == user.id) = true
  · rcases List.any_eq_true.mp id with ⟨row, member, equal⟩
    exact ⟨row, member, .inl (beq_iff_eq.mp equal)⟩
  by_cases username : users.any (·.username == user.username) = true
  · rcases List.any_eq_true.mp username with ⟨row, member, equal⟩
    exact ⟨row, member, .inr (beq_iff_eq.mp equal)⟩
  · rw [if_neg id, if_neg username] at clash
    cases clash

namespace Tables

def database (tables : Tables) : Database :=
  ⟨some tables.ledger, some tables.users, some tables.namespaces, some tables.grants,
    some tables.workloads, tables.indexes⟩

def isActive (tables : Tables) (id : Int64) : Bool :=
  0 < tables.workloads.countP fun row => row.namespaceId == id && row.active

def contents (tables : Tables) : Contents where
  records := tables.namespaces.rows.map NamespaceRow.registration
  lastId := tables.namespaces.sequence
  users id := (tables.users.find? (·.id == id)).map UserRow.principal
  grants user := tables.grants.filterMap fun row =>
    if row.user = user then some row.namespaceId else none
  active := tables.isActive
  workloads id workload := ∃ row ∈ tables.workloads, row.key = (id, workload)

/-- The tables with a row at the end of the namespaces. -/
def withRow (tables : Tables) (row : NamespaceRow) : Tables :=
  { tables with namespaces := ⟨tables.namespaces.rows ++ [row], row.id⟩ }

/-- The tables without what names an id. -/
def without (tables : Tables) (id : Int64) : Tables :=
  { tables with
    namespaces := { tables.namespaces with rows := tables.namespaces.rows.filter (·.id != id) }
    grants := tables.grants.filter (·.namespaceId != id)
    workloads := tables.workloads.filter (·.namespaceId != id) }

def withReference (tables : Tables) (setting : WorkloadRow) : Tables :=
  { tables with workloads := setReference tables.workloads setting }

def withUser (tables : Tables) (user : Principal) : Tables :=
  { tables with users := tables.users ++ [⟨user.id, user.username, user.role.name⟩] }

structure Constrained (tables : Tables) : Prop where
  ordered : tables.contents.Ordered
  usersOnce : (tables.users.map UserRow.id).Nodup
  workloadsOnce : (tables.workloads.map WorkloadRow.key).Nodup

/-! ## Statements on the tables -/

variable (tables : Tables)

theorem findById_database (id : Int64) :
    tables.database.findById id = .ok (tables.contents.records.find? (·.id == id)) := by
  rw [contents, List.find?_map]
  rfl

theorem findByPair_database (name : String) (cluster : Int64) :
    tables.database.findByPair name cluster =
      .ok (tables.contents.records.find? (·.isFor name cluster)) := by
  rw [contents, List.find?_map]
  rfl

theorem insert_database (draft : Draft) :
    tables.database.insert draft =
      match tables.namespaces.insert (.ofDraft draft) with
      | .ok (row, namespaces) => (.ok row.registration, { tables with namespaces }.database)
      | .error failure => (.error (insertError draft failure), tables.database) := by
  simp only [insert, insertRow, database, present, bind, Except.bind, pure, Except.pure]
  cases tables.namespaces.insert (.ofDraft draft) with
  | ok inserted => rfl
  | error failure => rfl

theorem delete_database (id : Int64) :
    tables.database.delete id =
      if ∃ row ∈ tables.namespaces.rows, row.id = id then (.ok (), (tables.without id).database)
      else (.error (.notFound id), tables.database) := by
  have removed_iff : tables.namespaces.rows.countP (·.id == id) = 0 ↔
      ¬∃ row ∈ tables.namespaces.rows, row.id = id := by
    simp [List.countP_eq_zero]
  by_cases absent : tables.namespaces.rows.countP (·.id == id) = 0
  · rw [if_neg (removed_iff.mp absent)]
    simp [delete, deleteDisturbed, deleteInside, atStage, undisturbed, deleteRow, database, present,
      NamespaceTable.delete, bind, Except.bind, pure, Except.pure, throw, throwThe,
      MonadExceptOf.throw, absent]
  · rw [if_pos (not_not.mp (mt removed_iff.mpr absent))]
    simp [delete, deleteDisturbed, deleteInside, atStage, undisturbed, deleteRow, deleteGrants,
      deleteWorkloads, database, without, present, NamespaceTable.delete, bind, Except.bind, pure,
      Except.pure, absent]

theorem setWorkload_database (id : Int64) (workload : String) (active : Bool) :
    tables.database.setWorkload id workload active =
      (.ok (), (tables.withReference ⟨id, workload, active⟩).database) := rfl

theorem grant_database (user id : Int64) :
    tables.database.grant user id =
      (.ok (), { tables with grants := insertNew ⟨user, id⟩ tables.grants }.database) := rfl

theorem revoke_database (user id : Int64) :
    tables.database.revoke user id =
      (.ok (), { tables with grants := remove ⟨user, id⟩ tables.grants }.database) := rfl

theorem addUser_database (user : Principal) :
    tables.database.addUser user =
      match userClash? tables.users user with
      | some key =>
          (.error ((Failure.duplicate key).during "Failed to create user"), tables.database)
      | none =>
          (.ok (), (tables.withUser user).database) := by
  simp only [addUser, execute, insertUser, database, present, bind, Except.bind]
  cases userClash? tables.users user with
  | none => rfl
  | some key => rfl

/-! ## Reading the tables -/

theorem contents_withRow (row : NamespaceRow) :
    (tables.withRow row).contents = { tables.contents with
      records := tables.contents.records ++ [row.registration]
      lastId := row.id } := by
  have records : (tables.withRow row).contents.records =
      tables.contents.records ++ [row.registration] := List.map_append
  rw [← records]
  rfl

theorem records_without (id : Int64) :
    (tables.without id).contents.records = tables.contents.records.filter (·.id != id) := by
  simp only [contents, without, List.filter_map]
  rfl

theorem mem_grants_contents {user id : Int64} :
    id ∈ tables.contents.grants user ↔ ⟨user, id⟩ ∈ tables.grants := by
  simp only [contents, List.mem_filterMap]
  constructor
  · intro found
    rcases found with ⟨row, member, same⟩
    by_cases holder : row.user = user
    · rw [if_pos holder, Option.some.injEq] at same
      exact holder ▸ same ▸ member
    · rw [if_neg holder] at same
      cases same
  · intro member
    exact ⟨⟨user, id⟩, member, by simp⟩

theorem isActive_iff (id : Int64) :
    tables.isActive id = true ↔
      ∃ row ∈ tables.workloads, row.namespaceId = id ∧ row.active = true := by
  simp [isActive, List.countP_pos_iff]

theorem isActive_without {id other : Int64} (different : other ≠ id) :
    (tables.without id).isActive other = tables.isActive other := by
  rw [Bool.eq_iff_iff, isActive_iff, isActive_iff]
  constructor
  · intro found
    rcases found with ⟨row, member, marked⟩
    exact ⟨row, (List.mem_filter.mp member).1, marked⟩
  · intro found
    rcases found with ⟨row, member, marked⟩
    refine ⟨row, List.mem_filter.mpr ⟨member, bne_iff_ne.mpr ?_⟩, marked⟩
    exact marked.1 ▸ different

theorem not_isActive_without (id : Int64) : (tables.without id).isActive id = false := by
  rw [← Bool.not_eq_true, isActive_iff]
  intro found
  rcases found with ⟨row, member, marked, _⟩
  exact bne_iff_ne.mp (List.mem_filter.mp member).2 marked

/-- The role is read back from the text it is kept as. -/
theorem users_withUser_same {user : Principal} (free : userClash? tables.users user = none) :
    (tables.withUser user).contents.users user.id = some user := by
  have absent : tables.users.find? (·.id == user.id) = none := by
    simpa using unused_of_userClash? free
  simp [contents, withUser, List.find?_append, absent, UserRow.principal, Role.parse_name]

theorem usersOnce_withUser {user : Principal} (once : (tables.users.map UserRow.id).Nodup)
    (free : userClash? tables.users user = none) :
    ((tables.withUser user).users.map UserRow.id).Nodup := by
  have unused := unused_of_userClash? free
  rw [withUser, List.map_append, List.nodup_append]
  refine ⟨once, List.nodup_singleton _, ?_⟩
  intro id earlier last lastMember
  rcases List.mem_map.mp earlier with ⟨row, member, rfl⟩
  rw [List.map_singleton, List.mem_singleton] at lastMember
  exact lastMember ▸ unused row member

/-- A user is refused only for a user who can be found. -/
theorem clashes_of_userClash? {user : Principal} {key : UniqueKey}
    (once : (tables.users.map UserRow.id).Nodup) (clash : userClash? tables.users user = some key) :
    tables.contents.Clashes user := by
  rcases used_of_userClash? clash with ⟨row, member, used⟩
  have search : tables.users.find? (·.id == row.id) = some row :=
    (find?_key once row.id row).mpr ⟨member, rfl⟩
  exact ⟨row.id, row.principal, congrArg (Option.map UserRow.principal) search, used⟩

theorem users_withUser_other (user : Principal) {id : Int64} (different : id ≠ user.id) :
    (tables.withUser user).contents.users id = tables.contents.users id := by
  simp [contents, withUser, List.find?_append, different.symm]

theorem isActive_withReference (once : (tables.workloads.map WorkloadRow.key).Nodup)
    (setting : WorkloadRow) (id : Int64) :
    (tables.withReference setting).isActive id = true ↔
      (setting.namespaceId = id ∧ setting.active = true) ∨
        ∃ row ∈ tables.workloads,
          row.key ≠ setting.key ∧ row.namespaceId = id ∧ row.active = true := by
  rw [isActive_iff]
  constructor
  · intro found
    rcases found with ⟨row, member, marked⟩
    rcases (mem_setReference once setting row).mp member with rfl | ⟨kept, different⟩
    · exact .inl marked
    · exact .inr ⟨row, kept, different, marked⟩
  · intro either
    rcases either with marked | ⟨row, kept, different, marked⟩
    · exact ⟨setting, (mem_setReference once setting setting).mpr (.inl rfl), marked⟩
    · exact ⟨row, (mem_setReference once setting row).mpr (.inr ⟨kept, different⟩), marked⟩

end Tables

/-! ## Inserting a namespace -/

namespace NamespaceTable

variable (table : NamespaceTable) (draft : Draft)

def HasPair : Prop := ∃ row ∈ table.rows, row.name = draft.name ∧ row.cluster = draft.cluster

def HasCode : Prop := ∃ row ∈ table.rows, row.code = draft.code

instance : Decidable (table.HasPair draft) :=
  inferInstanceAs (Decidable (∃ row ∈ table.rows, _ ∧ _))

instance : Decidable (table.HasCode draft) :=
  inferInstanceAs (Decidable (∃ row ∈ table.rows, _))

theorem clash?_ofDraft : table.clash? (.ofDraft draft) =
    if table.HasPair draft then some .pair
    else if table.HasCode draft then some .code
    else none := by
  have pair : table.rows.any (·.isFor draft.name draft.cluster) = true ↔ table.HasPair draft := by
    simp [HasPair, NamespaceRow.isFor]
  have code : table.rows.any (·.code == draft.code) = true ↔ table.HasCode draft := by
    simp [HasCode]
  simp only [clash?, NewRow.ofDraft, pair, code]

end NamespaceTable

def rowOf (draft : Draft) (id : Int64) : NamespaceRow :=
  (NewRow.ofDraft draft).withId id

/-- What an insert comes to, and the database it leaves. A draft that clashes in both its name and
its code counts as one whose name is in use. -/
structure Settled (table : NamespaceTable) (before : Database) (draft : Draft)
    (outcome : Except StoreError Registration) (after : Database) : Prop where
  pair : table.HasPair draft → outcome = .error (pairInUse draft) ∧ after = before
  code : ¬table.HasPair draft → table.HasCode draft →
    outcome = .error (codeInUse draft) ∧ after = before
  full : ¬table.HasPair draft → ¬table.HasCode draft → nextId? table.sequence = none →
    outcome = .error (Failure.full.during "Failed to insert namespace") ∧ after = before
  entered : ¬table.HasPair draft → ¬table.HasCode draft →
    ∀ id, nextId? table.sequence = some id →
      outcome = .ok (rowOf draft id).registration ∧
        after = { before with namespaces := some ⟨table.rows ++ [rowOf draft id], id⟩ }

variable {tables : Tables} {draft : Draft}

theorem settled_insert (tables : Tables) (draft : Draft) :
    Settled tables.namespaces tables.database draft (tables.database.insert draft).1
      (tables.database.insert draft).2 := by
  rw [Tables.insert_database, NamespaceTable.insert, NamespaceTable.clash?_ofDraft]
  constructor
  case pair =>
    intro taken
    simp only [if_pos taken, insertError_pair, and_self]
  case code =>
    intro free used
    simp only [if_neg free, if_pos used, insertError_code, and_self]
  case full =>
    intro free unused none
    simp only [if_neg free, if_neg unused, none]
    exact ⟨rfl, trivial⟩
  case entered =>
    intro free unused id next
    simp only [if_neg free, if_neg unused, next]
    exact ⟨rfl, rfl⟩

/-- A row has the name and cluster of a draft exactly when a record does. -/
theorem Tables.hasPair_iff (tables : Tables) (draft : Draft) :
    tables.namespaces.HasPair draft ↔ tables.contents.Registered draft.name draft.cluster := by
  simp [Contents.Registered, Tables.contents, NamespaceTable.HasPair, Registration.isFor,
    NamespaceRow.registration]

namespace Settled

variable {table : NamespaceTable} {before after : Database}
  {outcome : Except StoreError Registration}

theorem ok_iff (settled : Settled table before draft outcome after) :
    (∃ record, outcome = .ok record) ↔
      ¬table.HasPair draft ∧ ¬table.HasCode draft ∧ nextId? table.sequence ≠ none := by
  by_cases taken : table.HasPair draft
  · simp [(settled.pair taken).1, taken]
  by_cases used : table.HasCode draft
  · simp [(settled.code taken used).1, used]
  cases next : nextId? table.sequence with
  | none => simp [(settled.full taken used next).1]
  | some id => simp [(settled.entered taken used id next).1, taken, used]

theorem conflict_iff (settled : Settled table before draft outcome after) :
    (∃ text, outcome = .error (.conflict text)) ↔ table.HasPair draft := by
  by_cases taken : table.HasPair draft
  · simp [(settled.pair taken).1, taken, pairInUse]
  by_cases used : table.HasCode draft
  · simp [(settled.code taken used).1, taken, codeInUse]
  cases next : nextId? table.sequence with
  | none => simp [(settled.full taken used next).1, taken, Failure.during]
  | some id => simp [(settled.entered taken used id next).1, taken]

end Settled

end Tenancy.Database
