import Tenancy.Proofs.History.Clashing
import Tenancy.Proofs.History.Listings
import Tenancy.Proofs.History.Resumption
import Tenancy.Proofs.History.Retry

/-! The times of registrations in the database. They are kept in whole milliseconds, so what is
returned for a draft and read back ever after is its time rounded down. Rounding brings two times
together at most; it never puts the later one first. -/

namespace Tenancy

open Readable Registry Database

/-! ## What a history enters -/

/-- The draft of an operation with the record it was answered with, if it has entered one. -/
def Operation.entered? : Operation → Answer → Option (Draft × Registration)
  | request (.register caller name cluster stamp), .registry (.ok (.record record)) =>
      some (draft caller name cluster stamp, record)
  | insert draft, .store (.ok (.record record)) => some (draft, record)
  | _, _ => none

def World.entries [Store σ] (world : World σ Clusters) :
    List Operation → List (Draft × Registration)
  | [] => []
  | operation :: rest =>
      (operation.entered? (operation.perform world).1).toList ++
        (operation.perform world).2.entries rest

theorem Operation.entered?_of_issued? {operation : Operation} {answer : Answer}
    (none : answer.issued? = none) : operation.entered? answer = Option.none := by
  unfold entered?
  split
  · cases none
  · cases none
  · rfl

section

variable [Store σ] [Readable σ] [LawfulStore σ]

theorem Change.mem_of_entered? {operation : Operation} {answer : Answer} {before after : Contents}
    {entry : Draft × Registration} (change : Change operation answer before after)
    (entered : operation.entered? answer = some entry) : entry.2 ∈ after.records := by
  have issued : answer.issued? ≠ none := by
    intro none
    rw [Operation.entered?_of_issued? none] at entered
    cases entered
  cases change with
  | registered enters | inserted enters =>
      cases entered
      rw [enters.rest]
      exact List.mem_append_right _ (List.mem_singleton_self _)
  | kept none | removed none | granted none | revoked none | marked none | added none =>
      exact absurd none issued

/-- What was entered is there until it is deleted. -/
theorem World.mem_of_entries {world : World σ Clusters} {history : List Operation}
    {entry : Draft × Registration} (sound : Sound world.store)
    (entered : entry ∈ world.entries history) (kept : entry.2.id ∉ world.deleted history) :
    entry.2 ∈ (contents (world.after history).store).records := by
  induction history generalizing world with
  | nil => exact absurd entered List.not_mem_nil
  | cons operation rest induction =>
      have changed := change_perform sound operation
      rw [entries, List.mem_append, Option.mem_toList] at entered
      rw [deleted, List.mem_append, not_or] at kept
      rw [after]
      rcases entered with now | later
      · exact mem_after changed.1 (changed.2.mem_of_entered? now) kept.2
      · exact induction changed.1 later kept.2

end

/-! ## Rows -/

theorem deleted_of_deregistered [Store σ] [Readable σ] [LawfulStore σ] [Gateway γ]
    {world : World σ γ} (sound : Sound world.store) (caller : Principal) (id : Int64) :
    (world.run (deregister caller id)).2.store = world.store ∨
      (world.run (deregister caller id)).2.store = (Store.delete world.store id).2 := by
  rw [run_deregister sound]
  cases (contents world.store).records.find? (·.id == id) with
  | none => exact .inl rfl
  | some registration =>
      by_cases manages : canManage caller registration = true
      · by_cases inUse : (contents world.store).active id = true
        · exact .inl (by simp only [if_pos manages, if_pos inUse])
        · exact .inr (by simp only [if_pos manages, if_neg inUse])
      · exact .inl (by simp only [if_neg manages])

/-- A row is added for the draft that is entered, and otherwise none is. -/
inductive RowChange (before : List NamespaceRow) :
    Option (Draft × Registration) → List NamespaceRow → Prop
  | entered (draft : Draft) (id : Int64) :
      RowChange before (some (draft, (rowOf draft id).registration)) (before ++ [rowOf draft id])
  | none {after : List NamespaceRow} (fewer : after.Sublist before) : RowChange before none after

section

variable {tables : Tables}

theorem insert_eq_ok {draft : Draft} {record : Registration} {after : Database}
    (inserted : tables.database.insert draft = (.ok record, after)) :
    ∃ id, record = (rowOf draft id).registration ∧
      after = (tables.withRow (rowOf draft id)).database := by
  have settled := settled_insert tables draft
  rw [inserted] at settled
  rcases settled.ok_iff.mp ⟨record, rfl⟩ with ⟨free, unused, left⟩
  rcases Option.ne_none_iff_exists'.mp left with ⟨id, next⟩
  rcases settled.entered free unused id next with ⟨same, changed⟩
  exact ⟨id, Except.ok.inj same, changed⟩

theorem rows_delete (tables : Tables) (id : Int64) :
    ∃ next : Tables, (tables.database.delete id).2 = next.database ∧
      next.namespaces.rows.Sublist tables.namespaces.rows := by
  rw [Tables.delete_database]
  by_cases present : ∃ row ∈ tables.namespaces.rows, row.id = id
  · rw [if_pos present]
    exact ⟨tables.without id, rfl, List.filter_sublist⟩
  · rw [if_neg present]
    exact ⟨tables, rfl, .refl _⟩

theorem rows_perform (constrained : tables.Constrained) (clusters : Clusters)
    (operation : Operation) :
    let done := operation.perform (World.mk tables.database clusters)
    ∃ next : Tables, done.2.store = next.database ∧
      RowChange tables.namespaces.rows (operation.entered? done.1) next.namespaces.rows := by
  intro done
  have sound : Sound (World.mk tables.database clusters).store := constrained.sound
  cases operation with
  | request asked =>
      rcases request_cases sound asked with
        ⟨caller, name, cluster, stamp, rfl⟩ | ⟨caller, id, rfl⟩ | ⟨unchanged, none⟩
      · simp only [done, Operation.perform_register]
        rcases register_cases sound caller name cluster stamp with
          ⟨error, gateway, ran⟩ | ⟨record, after, gateway, ran, _, _⟩
        · rw [ran]
          exact ⟨tables, rfl, .none (.refl _)⟩
        · have inserted := (calls_of_registered _ (congrArg Prod.fst ran)).2
          rw [ran] at inserted ⊢
          rcases insert_eq_ok inserted with ⟨id, rfl, rfl⟩
          exact ⟨_, rfl, .entered (draft caller name cluster stamp) id⟩
      · simp only [done, Operation.perform, RegistryRequest.procedure, World.run_map]
        rcases deleted_of_deregistered sound caller id with same | deleted
        · exact ⟨tables, same, .none (.refl _)⟩
        · rcases rows_delete tables id with ⟨next, left, fewer⟩
          exact ⟨next, deleted.trans left, .none fewer⟩
      · have nothing : (Operation.request asked).entered? done.1 = Option.none :=
          Operation.entered?_of_issued? none
        rw [nothing]
        exact ⟨tables, congrArg World.store unchanged, .none (.refl _)⟩
  | insert draft =>
      simp only [done, Operation.perform, Store.insert]
      rcases inserted : tables.database.insert draft with ⟨error | record, after⟩
      · have outcome := insertOutcome constrained draft
        rw [inserted] at outcome
        cases outcome <;> exact ⟨tables, rfl, .none (.refl _)⟩
      · rcases insert_eq_ok inserted with ⟨id, rfl, rfl⟩
        exact ⟨_, rfl, .entered draft id⟩
  | delete id =>
      rcases rows_delete tables id with ⟨next, same, fewer⟩
      exact ⟨next, same, .none fewer⟩
  | grant user id =>
      have granted := congrArg Prod.snd (tables.grant_database user id)
      exact ⟨_, granted, .none (.refl _)⟩
  | revoke user id =>
      have revoked := congrArg Prod.snd (tables.revoke_database user id)
      exact ⟨_, revoked, .none (.refl _)⟩
  | setWorkload id workload active =>
      have set := congrArg Prod.snd (tables.setWorkload_database id workload active)
      exact ⟨_, set, .none (.refl _)⟩
  | addUser user =>
      simp only [done, Operation.perform, Store.addUser, Tables.addUser_database]
      cases userClash? tables.users user with
      | some key => exact ⟨tables, rfl, .none (.refl _)⟩
      | none => exact ⟨tables.withUser user, rfl, .none (.refl _)⟩
  | findByPair | findById | listAll | seed | failNextCreate => exact ⟨tables, rfl, .none (.refl _)⟩

theorem tables_perform (constrained : tables.Constrained) (clusters : Clusters)
    (operation : Operation) :
    let done := operation.perform (World.mk tables.database clusters)
    ∃ (next : Tables) (gateway : Clusters), done.2 = ⟨next.database, gateway⟩ ∧
      next.Constrained ∧
      RowChange tables.namespaces.rows (operation.entered? done.1) next.namespaces.rows := by
  intro done
  have sound : Sound (World.mk tables.database clusters).store := constrained.sound
  have soundAfter := (change_perform sound operation).1
  rcases rows_perform constrained clusters operation with ⟨next, store, rows⟩
  rw [store] at soundAfter
  exact ⟨next, done.2.gateway, congrArg (World.mk · done.2.gateway) store,
    constrained_of_sound soundAfter, rows⟩

/-- Every row that a history leaves was there before or is that of a draft it has entered. -/
theorem rows_after (constrained : tables.Constrained) (clusters : Clusters)
    (history : List Operation) :
    let world : World Database Clusters := ⟨tables.database, clusters⟩
    ∃ next : Tables, (world.after history).store = next.database ∧ next.Constrained ∧
      ∀ row ∈ next.namespaces.rows, row ∈ tables.namespaces.rows ∨
        ∃ draft, (draft, row.registration) ∈ world.entries history ∧ row = rowOf draft row.id := by
  intro world
  induction history generalizing tables clusters with
  | nil => exact ⟨tables, rfl, constrained, fun _ member => .inl member⟩
  | cons operation rest induction =>
      rcases tables_perform constrained clusters operation with
        ⟨middle, gateway, done, middleConstrained, change⟩
      rcases induction middleConstrained gateway with ⟨next, store, nextConstrained, kept⟩
      rw [World.after, World.entries, done]
      refine ⟨next, store, nextConstrained, ?_⟩
      intro row member
      rcases kept row member with earlier | ⟨draft, later, same⟩
      · generalize operation.entered? (operation.perform world).1 = entered at change ⊢
        generalize middle.namespaces.rows = rows at change earlier
        cases change with
        | none fewer => exact .inl (fewer.subset earlier)
        | entered draft id =>
            rcases List.mem_append.mp earlier with before | new
            · exact .inl before
            · cases List.mem_singleton.mp new
              exact .inr ⟨draft, List.mem_append_left _ (List.mem_singleton_self _), rfl⟩
      · exact .inr ⟨draft, List.mem_append_right _ later, same⟩

/-- Every record that a history returns for a draft is the one of its row. -/
theorem entries_are_rows (constrained : tables.Constrained) (clusters : Clusters)
    {history : List Operation} {entry : Draft × Registration}
    (entered : entry ∈ World.entries (World.mk tables.database clusters) history) :
    entry.2 = (rowOf entry.1 entry.2.id).registration := by
  induction history generalizing tables clusters with
  | nil => exact absurd entered List.not_mem_nil
  | cons operation rest induction =>
      rcases tables_perform constrained clusters operation with
        ⟨middle, gateway, done, middleConstrained, change⟩
      rw [World.entries, done, List.mem_append, Option.mem_toList] at entered
      rcases entered with now | later
      · rw [now] at change
        generalize middle.namespaces.rows = rows at change
        cases change
        rfl
      · exact induction middleConstrained gateway later

end

/-! ## Times -/

section

variable {draft : Draft}

theorem ofMillis?_created (unleaped : draft.createdAt.isLeap = false) (id : Int64) :
    Instant.ofMillis? (rowOf draft id).created.toInt = some draft.createdAt.truncated := by
  change Instant.ofMillis? (Int64.ofInt draft.createdAt.millis).toInt = _
  rw [Instant.toInt_ofInt_millis, Instant.ofMillis?_millis unleaped]

theorem createdAt_rowOf (unleaped : draft.createdAt.isLeap = false) (id : Int64) :
    (rowOf draft id).registration.createdAt = draft.createdAt.truncated := by
  change (Instant.ofMillis? (rowOf draft id).created.toInt).getD .epoch = _
  rw [ofMillis?_created unleaped, Option.getD_some]

end

/-- How a database that has come to hold some records keeps their times. The entries are the drafts
with the records that were returned for them. -/
structure KeepsTimes (world : World Database Clusters) (entries : List (Draft × Registration))
    (deleted : List Int64) : Prop where
  returned : ∀ draft record, (draft, record) ∈ entries → draft.createdAt.isLeap = false →
    draft.createdAt.RoundsDown record.createdAt ∧ record.updatedAt = record.createdAt
  /-- What clashes in nothing is entered next. -/
  next : ∃ table, world.store.namespaces = some table ∧ ∀ draft,
    ¬table.HasPair draft → ¬table.HasCode draft → nextId? table.sequence ≠ none →
    ∃ record, (Store.insert world.store draft).1 = .ok record ∧
      (draft.createdAt.isLeap = false → draft.createdAt.RoundsDown record.createdAt ∧
        record.updatedAt = record.createdAt)
  /-- Nothing is read as the epoch for want of an instant. -/
  rows : ∃ table, world.store.namespaces = some table ∧ ∀ row ∈ table.rows,
    ∃ draft, (draft, row.registration) ∈ entries ∧ (draft.createdAt.isLeap = false →
      Instant.ofMillis? row.created.toInt = some row.registration.createdAt ∧
        Instant.ofMillis? row.updated.toInt = some row.registration.updatedAt)
  listAll : ∃ records, Store.listAll world.store = .ok records ∧
    (∀ record ∈ records, ∃ draft, (draft, record) ∈ entries) ∧
    ∀ entry ∈ entries, entry.2.id ∉ deleted → entry.2 ∈ records
  findById : ∀ id, ∃ found, Store.findById world.store id = .ok found ∧
    (∀ record, found = some record → ∃ draft, (draft, record) ∈ entries) ∧
    ∀ entry ∈ entries, entry.2.id ∉ deleted → entry.2.id = id → found = some entry.2
  findByPair : ∀ name cluster, ∃ found, Store.findByPair world.store name cluster = .ok found ∧
    (∀ record, found = some record → ∃ draft, (draft, record) ∈ entries) ∧
    ∀ entry ∈ entries, entry.2.id ∉ deleted → entry.2.pair = (name, cluster) →
      found = some entry.2
  inOrder : ∀ first ∈ entries, ∀ second ∈ entries, first.1.createdAt.isLeap = false →
    second.1.createdAt.isLeap = false → first.1.createdAt ≤ second.1.createdAt →
    first.2.createdAt ≤ second.2.createdAt
  /-- The later of two registrations is listed first only within one millisecond, by its id. -/
  available : ∀ user, ∃ listed, (world.run (available user)).1 = .ok listed ∧
    (∀ record ∈ listed, ∃ draft, (draft, record) ∈ entries) ∧
    listed.Pairwise fun first second => Precedes first second ∧
      ∀ draft later, (draft, second) ∈ entries → (later, first) ∈ entries →
        draft.createdAt.isLeap = false → later.createdAt.isLeap = false →
        draft.createdAt < later.createdAt →
        first.createdAt = second.createdAt ∧ first.id < second.id

/-- What a database holds can be traced to what was entered. -/
structure Traced (world : World Database Clusters) (entries : List (Draft × Registration))
    (deleted : List Int64) : Prop where
  sound : Sound world.store
  row : ∀ draft record, (draft, record) ∈ entries →
    record = (rowOf draft record.id).registration
  rows : ∃ tables : Tables, tables.database = world.store ∧ ∀ row ∈ tables.namespaces.rows,
    ∃ draft, (draft, row.registration) ∈ entries ∧ row = rowOf draft row.id
  there : ∀ entry ∈ entries, entry.2.id ∉ deleted → entry.2 ∈ (contents world.store).records

theorem traced_after (clusters : Clusters) (history : List Operation) :
    let world := BackEnd.database.start clusters
    Traced (world.after history) (world.entries history) (world.deleted history) := by
  intro world
  have constrained : fresh.held.Constrained := constrained_of_sound sound_fresh
  constructor
  case sound => exact BackEnd.database.sound_after clusters history
  case row =>
    intro draft record entered
    exact entries_are_rows constrained clusters entered
  case rows =>
    rcases rows_after constrained clusters history with ⟨next, store, _, kept⟩
    exact ⟨next, store.symm, fun row member => (kept row member).resolve_left List.not_mem_nil⟩
  case there =>
    intro entry entered kept
    exact World.mem_of_entries BackEnd.database.sound_fresh entered kept

namespace Traced

variable {world : World Database Clusters} {entries : List (Draft × Registration)}
  {deleted : List Int64} {draft : Draft} {record : Registration}

theorem read (traced : Traced world entries deleted)
    (member : record ∈ (contents world.store).records) : ∃ draft, (draft, record) ∈ entries := by
  rcases traced.rows with ⟨tables, store, kept⟩
  rw [← store] at member
  rcases List.mem_map.mp member with ⟨row, rowMember, rfl⟩
  rcases kept row rowMember with ⟨draft, entered, _⟩
  exact ⟨draft, entered⟩

theorem createdAt (traced : Traced world entries deleted) (entered : (draft, record) ∈ entries)
    (unleaped : draft.createdAt.isLeap = false) :
    record.createdAt = draft.createdAt.truncated := by
  rw [traced.row draft record entered]
  exact createdAt_rowOf unleaped _

theorem updatedAt (traced : Traced world entries deleted) (entered : (draft, record) ∈ entries) :
    record.updatedAt = record.createdAt := by
  rw [traced.row draft record entered]
  rfl

theorem roundsDown (traced : Traced world entries deleted) (entered : (draft, record) ∈ entries)
    (unleaped : draft.createdAt.isLeap = false) :
    draft.createdAt.RoundsDown record.createdAt := by
  rw [traced.createdAt entered unleaped]
  exact Instant.roundsDown_truncated unleaped

theorem findById (traced : Traced world entries deleted) (id : Int64) :
    ∃ found, Store.findById world.store id = .ok found ∧
      (∀ record, found = some record → ∃ draft, (draft, record) ∈ entries) ∧
      ∀ entry ∈ entries, entry.2.id ∉ deleted → entry.2.id = id → found = some entry.2 := by
  have finds := (LawfulStore.ordered traced.sound).find?_id id
  refine ⟨_, LawfulStore.findById traced.sound id, ?_, ?_⟩
  · exact fun record found => traced.read ((finds record).mp found).1
  · exact fun entry entered kept named =>
      (finds entry.2).mpr ⟨traced.there entry entered kept, named⟩

theorem findByPair (traced : Traced world entries deleted) (name : String) (cluster : Int64) :
    ∃ found, Store.findByPair world.store name cluster = .ok found ∧
      (∀ record, found = some record → ∃ draft, (draft, record) ∈ entries) ∧
      ∀ entry ∈ entries, entry.2.id ∉ deleted → entry.2.pair = (name, cluster) →
        found = some entry.2 := by
  have finds := (LawfulStore.ordered traced.sound).find?_pair name cluster
  refine ⟨_, LawfulStore.findByPair traced.sound name cluster, ?_, ?_⟩
  · exact fun record found => traced.read ((finds record).mp found).1
  · exact fun entry entered kept named =>
      (finds entry.2).mpr ⟨traced.there entry entered kept, named⟩

theorem rows_created (traced : Traced world entries deleted) :
    ∃ table, world.store.namespaces = some table ∧ ∀ row ∈ table.rows,
      ∃ draft, (draft, row.registration) ∈ entries ∧ (draft.createdAt.isLeap = false →
        Instant.ofMillis? row.created.toInt = some row.registration.createdAt ∧
          Instant.ofMillis? row.updated.toInt = some row.registration.updatedAt) := by
  rcases traced.rows with ⟨tables, store, kept⟩
  refine ⟨tables.namespaces, store ▸ rfl, ?_⟩
  intro row member
  rcases kept row member with ⟨draft, entered, same⟩
  refine ⟨draft, entered, ?_⟩
  intro unleaped
  rw [traced.updatedAt entered, traced.createdAt entered unleaped, same]
  have created := ofMillis?_created unleaped row.id
  exact ⟨created, created⟩

theorem next (traced : Traced world entries deleted) :
    ∃ table, world.store.namespaces = some table ∧ ∀ draft,
      ¬table.HasPair draft → ¬table.HasCode draft → nextId? table.sequence ≠ none →
      ∃ record, (Store.insert world.store draft).1 = .ok record ∧
        (draft.createdAt.isLeap = false → draft.createdAt.RoundsDown record.createdAt ∧
          record.updatedAt = record.createdAt) := by
  rcases traced.rows with ⟨tables, store, _⟩
  refine ⟨tables.namespaces, store ▸ rfl, ?_⟩
  intro draft free unused left
  rcases Option.ne_none_iff_exists'.mp left with ⟨id, next⟩
  have entered := ((settled_insert tables draft).entered free unused id next).1
  refine ⟨(rowOf draft id).registration, by rw [← store]; exact entered, ?_⟩
  intro unleaped
  rw [createdAt_rowOf unleaped]
  exact ⟨Instant.roundsDown_truncated unleaped, (createdAt_rowOf unleaped id)⟩

theorem available (traced : Traced world entries deleted) (user : Principal) :
    ∃ listed, (world.run (Registry.available user)).1 = .ok listed ∧
      (∀ record ∈ listed, ∃ draft, (draft, record) ∈ entries) ∧
      listed.Pairwise fun first second => Precedes first second ∧
        ∀ draft later, (draft, second) ∈ entries → (later, first) ∈ entries →
          draft.createdAt.isLeap = false → later.createdAt.isLeap = false →
          draft.createdAt < later.createdAt →
          first.createdAt = second.createdAt ∧ first.id < second.id := by
  have once : (((contents world.store).visibleTo user).map (·.id)).Nodup :=
    (LawfulStore.ordered traced.sound).idsOnce.sublist (List.filter_sublist.map _)
  refine ⟨_, congrArg Prod.fst (run_available_undropped traced.sound user), ?_, ?_⟩
  · intro record listed
    exact traced.read (List.mem_filter.mp (List.mem_mergeSort.mp listed)).1
  refine (oldestFirst_precedes once).imp ?_
  intro first second precedes
  refine ⟨precedes, ?_⟩
  intro draft later entered laterEntered unleaped laterUnleaped before
  have kept : second.createdAt ≤ first.createdAt :=
    (traced.roundsDown entered unleaped).mono (traced.roundsDown laterEntered laterUnleaped)
      (Instant.le_of_lt before)
  rcases precedes with earlier | tied
  · exact absurd kept (Instant.not_le_of_lt earlier)
  · exact tied

end Traced

theorem times_are_kept_to_the_millisecond (clusters : Clusters) (history : List Operation) :
    let world := BackEnd.database.start clusters
    KeepsTimes (world.after history) (world.entries history) (world.deleted history) := by
  intro world
  have traced := traced_after clusters history
  constructor
  case returned =>
    intro draft record entered unleaped
    exact ⟨traced.roundsDown entered unleaped, traced.updatedAt entered⟩
  case next => exact traced.next
  case rows => exact traced.rows_created
  case listAll =>
    exact ⟨_, LawfulStore.listAll traced.sound, fun _ => traced.read, traced.there⟩
  case findById => exact traced.findById
  case findByPair => exact traced.findByPair
  case inOrder =>
    intro first firstEntered second secondEntered firstUnleaped secondUnleaped le
    exact (traced.roundsDown firstEntered firstUnleaped).mono
      (traced.roundsDown secondEntered secondUnleaped) le
  case available => exact traced.available

/-! The first and the last instant there are, and one just before the epoch. -/

example :
    let first : Instant := ⟨Instant.earliestSecond, 999999, by decide⟩
    let last : Instant := ⟨Instant.latestSecond, 999999999, by decide⟩
    let world := (BackEnd.database.start (.withCodes [])).after
      [.insert ⟨1, "first", 100, 1, first⟩, .insert ⟨2, "last", 100, 1, last⟩,
        .insert ⟨3, "early", 100, 1, ⟨-1, 1, by decide⟩⟩]
    (Store.listAll world.store).map (·.map fun record =>
        (record.createdAt.seconds, record.createdAt.nanos)) =
      .ok [(Instant.earliestSecond, 0), (Instant.latestSecond, 999000000), (-1, 0)] := by
  decide

end Tenancy
