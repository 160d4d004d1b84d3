import Tenancy.Proofs.Store.Tables

/-! A migrated database is a lawful store, and stays one. -/

namespace Tenancy.Database

open Readable

/-- The tables of a database, an absent one counting as empty. -/
def held (database : Database) : Tables where
  ledger := database.ledger.getD []
  users := database.users.getD []
  namespaces := database.namespaces.getD ⟨[], 0⟩
  grants := database.grants.getD []
  workloads := database.workloads.getD []
  indexes := database.indexes

instance : Readable Database where
  contents database := database.held.contents
  Sound database := ∃ tables : Tables, tables.database = database ∧ tables.Constrained

theorem contents_fresh : contents fresh = Contents.empty := by
  have untold : (contents fresh).workloads = fun _ _ => False := by
    funext id workload
    change (∃ row ∈ ([] : List WorkloadRow), row.key = (id, workload)) = False
    simp
  change { Contents.empty with workloads := (contents fresh).workloads } = Contents.empty
  rw [untold]
  rfl

theorem sound_fresh : Sound fresh := by
  have ordered : (contents fresh).Ordered := contents_fresh ▸ Contents.ordered_empty
  exact ⟨fresh.held, rfl, ordered, .nil, .nil⟩

variable {tables : Tables}

theorem contents_database (tables : Tables) : contents tables.database = tables.contents := rfl

theorem Tables.Constrained.sound (constrained : tables.Constrained) : Sound tables.database :=
  ⟨tables, rfl, constrained⟩

/-! ## Namespaces -/

theorem insertOutcome (constrained : tables.Constrained) (draft : Draft) :
    InsertOutcome tables.database draft (tables.database.insert draft) := by
  have settled := settled_insert tables draft
  have registered := tables.hasPair_iff draft
  generalize tables.database.insert draft = result at settled ⊢
  rcases result with ⟨outcome, after⟩
  by_cases taken : tables.namespaces.HasPair draft
  · rcases settled.pair taken with ⟨rfl, rfl⟩
    exact .conflict _ (registered.mp taken)
  have free : ¬tables.contents.Registered draft.name draft.cluster := mt registered.mpr taken
  by_cases used : tables.namespaces.HasCode draft
  · rcases settled.code taken used with ⟨rfl, rfl⟩
    rcases used with ⟨row, member, code⟩
    exact .failed _ free (.inr ⟨row.registration, List.mem_map_of_mem member, code⟩)
  cases next : nextId? tables.namespaces.sequence with
  | none =>
      rcases settled.full taken used next with ⟨rfl, rfl⟩
      exact .failed _ free (.inl next)
  | some id =>
      rcases settled.entered taken used id next with ⟨rfl, rfl⟩
      have enters : tables.contents.Enters (tables.withRow (rowOf draft id)).contents draft
          (rowOf draft id).registration :=
        { free := free
          next := next
          code := rfl
          pair := rfl
          owner := rfl
          created := by
            intro whole
            change Instant.ofStoredMillis (Int64.ofInt draft.createdAt.millis).toInt = _
            rw [Instant.toInt_ofInt_millis, Instant.ofStoredMillis_millis whole]
          updated := rfl
          rest := tables.contents_withRow _ }
      have constrained : (tables.withRow (rowOf draft id)).Constrained :=
        ⟨constrained.ordered.enters enters, constrained.usersOnce, constrained.workloadsOnce⟩
      exact .entered _ _ constrained.sound enters

theorem deleteOutcome (constrained : tables.Constrained) (id : Int64) :
    DeleteOutcome tables.database id (tables.database.delete id) := by
  rw [Tables.delete_database]
  by_cases present : ∃ row ∈ tables.namespaces.rows, row.id = id
  · rw [if_pos present]
    have removes : tables.contents.Removes (tables.without id).contents id :=
      { present := by simpa [Tables.contents, NamespaceRow.registration] using present
        grants_subset := by
          intro user granted member
          rw [Tables.mem_grants_contents] at member ⊢
          exact (List.mem_filter.mp member).1
        grants_other := by
          intro user other different member
          rw [Tables.mem_grants_contents] at member ⊢
          exact List.mem_filter.mpr ⟨member, bne_iff_ne.mpr different⟩
        active_subset := by
          intro other marked
          by_cases equal : other = id
          · subst other
            exact absurd marked (by simp [Tables.contents, Tables.not_isActive_without])
          · exact (tables.isActive_without equal).symm.trans marked
        active_other := fun _ different => tables.isActive_without different
        workloads := by
          intro other workload told
          rcases told with ⟨row, member, key⟩
          exact ⟨row, (List.mem_filter.mp member).1, key⟩
        rest := by
          rw [← Tables.records_without]
          rfl }
    have constrained : (tables.without id).Constrained :=
      ⟨constrained.ordered.removes removes, constrained.usersOnce,
        constrained.workloadsOnce.sublist (List.filter_sublist.map _)⟩
    exact .removed _ constrained.sound removes
  · rw [if_neg present]
    apply DeleteOutcome.missing
    simpa [contents_database, Tables.contents, NamespaceRow.registration] using present

/-! ## Grants, workload references and users -/

theorem grantOutcome (constrained : tables.Constrained) (user id : Int64) :
    Updated tables.database (fun before after => before.Grants after user id)
      (tables.database.grant user id) := by
  rw [Tables.grant_database]
  refine .mk _ (Tables.Constrained.sound
    ⟨constrained.ordered.congr rfl rfl, constrained.usersOnce, constrained.workloadsOnce⟩) ⟨?_, rfl⟩
  intro holder granted
  rw [contents_database, contents_database, Tables.mem_grants_contents, Tables.mem_grants_contents,
    mem_insertNew, GrantRow.mk.injEq]

theorem grant_grant (tables : Tables) (user id : Int64) :
    (tables.database.grant user id).2.grant user id = tables.database.grant user id := by
  rw [Tables.grant_database, Tables.grant_database, insertNew_of_mem (mem_insertNew.mpr (.inr rfl))]

theorem revokeOutcome (constrained : tables.Constrained) (user id : Int64) :
    Updated tables.database (fun before after => before.Revokes after user id)
      (tables.database.revoke user id) := by
  rw [Tables.revoke_database]
  refine .mk _ (Tables.Constrained.sound
    ⟨constrained.ordered.congr rfl rfl, constrained.usersOnce, constrained.workloadsOnce⟩) ⟨?_, rfl⟩
  intro holder granted
  rw [contents_database, contents_database, Tables.mem_grants_contents, Tables.mem_grants_contents,
    mem_remove, Ne, GrantRow.mk.injEq]

theorem setWorkloadOutcome (constrained : tables.Constrained) (id : Int64) (workload : String)
    (active : Bool) :
    Updated tables.database (fun before after => before.Marks after id workload active)
      (tables.database.setWorkload id workload active) := by
  rw [Tables.setWorkload_database]
  have once := constrained.workloadsOnce
  refine .mk _ (Tables.Constrained.sound
    ⟨constrained.ordered.congr rfl rfl, constrained.usersOnce, setReference_nodup once _⟩)
    ⟨?_, ?_, ?_, ?_, rfl⟩
  · intro other different
    change (tables.withReference ⟨id, workload, active⟩).isActive other = tables.isActive other
    rw [Bool.eq_iff_iff, Tables.isActive_withReference _ once, Tables.isActive_iff]
    constructor
    · intro either
      rcases either with ⟨equal, _⟩ | ⟨row, member, _, marked⟩
      · exact absurd equal.symm different
      · exact ⟨row, member, marked⟩
    · intro found
      rcases found with ⟨row, member, marked⟩
      refine .inr ⟨row, member, fun equal => different ?_, marked⟩
      exact marked.1.symm.trans (congrArg Prod.fst equal)
  · intro active
    exact (Tables.isActive_withReference _ once _ _).mpr (.inl ⟨rfl, active⟩)
  · intro inactive marked
    rcases (Tables.isActive_withReference _ once _ _).mp marked with
      ⟨_, set⟩ | ⟨row, member, other, marked⟩
    · rw [inactive] at set
      cases set
    · have was := (Tables.isActive_iff _ _).mpr ⟨row, member, marked⟩
      refine ⟨was, row.workload, ?_, row, member, ?_⟩
      · intro equal
        exact other (Prod.ext marked.1 equal)
      · exact Prod.ext marked.1 rfl
  · intro marked other told
    rcases told with ⟨row, member, key⟩
    rcases (mem_setReference once _ row).mp member with rfl | ⟨kept, _⟩
    · exact .inr (Prod.mk.inj key.symm)
    · exact .inl ⟨row, kept, key⟩

theorem addUserOutcome (constrained : tables.Constrained) (user : Principal) :
    AddUserOutcome tables.database user (tables.database.addUser user) := by
  rw [Tables.addUser_database]
  cases clash : userClash? tables.users user with
  | some key => exact .refused _ (tables.clashes_of_userClash? constrained.usersOnce clash)
  | none =>
      refine .added _ (Tables.Constrained.sound
        ⟨constrained.ordered.congr rfl rfl, tables.usersOnce_withUser constrained.usersOnce clash,
          constrained.workloadsOnce⟩) ⟨?_, ?_, rfl⟩
      · exact tables.users_withUser_same clash
      · exact fun _ different => tables.users_withUser_other user different

instance : LawfulStore Database where
  ordered := by
    intro _ sound
    rcases sound with ⟨tables, rfl, constrained⟩
    exact constrained.ordered
  listAll := by
    intro _ sound
    rcases sound with ⟨tables, rfl, constrained⟩
    rfl
  findById := by
    intro _ sound id
    rcases sound with ⟨tables, rfl, constrained⟩
    exact tables.findById_database id
  findByPair := by
    intro _ sound name cluster
    rcases sound with ⟨tables, rfl, constrained⟩
    exact tables.findByPair_database name cluster
  findUser := by
    intro _ sound id
    rcases sound with ⟨tables, rfl, constrained⟩
    rfl
  grantsOf := by
    intro _ sound user
    rcases sound with ⟨tables, rfl, constrained⟩
    rfl
  hasActive := by
    intro _ sound id
    rcases sound with ⟨tables, rfl, constrained⟩
    rfl
  insert := by
    intro _ sound draft
    rcases sound with ⟨tables, rfl, constrained⟩
    exact insertOutcome constrained draft
  delete := by
    intro _ sound id
    rcases sound with ⟨tables, rfl, constrained⟩
    exact deleteOutcome constrained id
  grant := by
    intro _ sound user id
    rcases sound with ⟨tables, rfl, constrained⟩
    exact grantOutcome constrained user id
  revoke := by
    intro _ sound user id
    rcases sound with ⟨tables, rfl, constrained⟩
    exact revokeOutcome constrained user id
  setWorkload := by
    intro _ sound id workload active
    rcases sound with ⟨tables, rfl, constrained⟩
    exact setWorkloadOutcome constrained id workload active
  addUser := by
    intro _ sound user
    rcases sound with ⟨tables, rfl, constrained⟩
    exact addUserOutcome constrained user

end Tenancy.Database
