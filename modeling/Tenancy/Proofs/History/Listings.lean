import Tenancy.Proofs.History.Change
import Tenancy.Proofs.Registry.Order
import Tenancy.Proofs.Registry.Paging

/-! The listings of a user, side by side. The authorized half of the partition, the namespaces to
choose from and the pages put end to end show the same records, in three orders. -/

namespace Tenancy

open Readable Registry

namespace Registry

/-! ## One record of each pair -/

/-- Of the records of each pair exactly one is kept, and no other of the pair precedes it. -/
structure KeepsEarliest (records kept : List Registration) : Prop where
  subset : kept ⊆ records
  pairsOnce : (kept.map Registration.pair).Nodup
  earliest : ∀ record ∈ records, ∃ chosen ∈ kept,
    chosen.pair = record.pair ∧ ¬Precedes record chosen
  oldestFirst : kept.Pairwise fun left right => ¬Precedes right left

theorem keepsEarliest_firstPerPair (records : List Registration) :
    KeepsEarliest records (firstPerPair [] (oldestFirst records)) := by
  have sorted : (oldestFirst records).Pairwise fun left right => ¬Precedes right left := by
    have inOrder := List.pairwise_mergeSort earlier_trans earlier_total records
    exact inOrder.imp fun notLater => (earlier_iff_not_precedes _ _).mp notLater
  have reflexive (record : Registration) : ¬Precedes record record := by
    rw [precedes_iff]
    omega
  constructor
  · intro record member
    exact List.mem_mergeSort.mp (mem_of_mem_firstPerPair member)
  · exact (firstPerPair_pairsOnce [] _).1
  · intro record member
    exact exists_firstPerPair reflexive sorted (List.mem_mergeSort.mpr member) List.not_mem_nil
  · exact sorted.sublist (firstPerPair_sublist [] _)

/-! ## The same records in every listing -/

/-- The store has these records, the user's partition splits them so, and these are listed for the
user to choose from. -/
structure ListingsAgree [Store σ] [Gateway γ] (world : World σ γ) (user : Principal)
    (records : List Registration) (split : Partition) (listed : List Registration) : Prop where
  listAll : Store.listAll world.store = .ok records
  partition : (world.run (partition user)).1 = .ok split
  available : (world.run (available user)).1 = .ok listed
  authorizedInOrder : split.authorized.Pairwise fun left right => left.id < right.id
  unauthorizedInOrder : split.unauthorized.Pairwise fun left right => left.id < right.id
  disjoint : split.authorized.Disjoint split.unauthorized
  together : (split.authorized ++ split.unauthorized).Perm records
  listedOnce : listed.Nodup
  sameRecords : listed.Perm split.authorized
  /-- Nothing was left out for having the pair of another. -/
  undropped : listed = oldestFirst split.authorized
  oldestFirst : listed.Pairwise Precedes
  /-- All pages of any size that is allowed, so long as they can be numbered. -/
  pages : ∀ limit size : UInt32, 0 < size → size ≤ limit →
    pageCount listed.length size.toNat < UInt32.size →
    ∃ pages, List.Forall₂
        (fun number page => (world.run (pagedList limit user none number size)).1 = .ok page)
        (pageNumbers (pageCount listed.length size.toNat)) pages ∧
      pages.flatMap Page.items = listed.reverse

section

variable [Store σ] [Readable σ] [LawfulStore σ] [Gateway γ] {world : World σ γ}

/-- Where a pair has one record only, none of those a user may see is dropped. -/
theorem run_available_undropped (sound : Sound world.store) (user : Principal) :
    world.run (available user) =
      (.ok (oldestFirst ((contents world.store).visibleTo user)), world) := by
  have once : ((oldestFirst ((contents world.store).visibleTo user)).map
      Registration.pair).Nodup := by
    have visibleOnce : (((contents world.store).visibleTo user).map Registration.pair).Nodup :=
      (LawfulStore.ordered sound).pairsOnce.sublist (List.filter_sublist.map _)
    exact ((List.mergeSort_perm _ earlier).map _).nodup_iff.mpr visibleOnce
  rw [run_available sound, firstPerPair_eq_self once fun _ _ => List.not_mem_nil]

/-- No page is refused, and together they show whatever is found of what the user may see, the newest
first. -/
theorem exists_pages (sound : Sound world.store) (user : Principal) (search : Option String)
    {limit size : UInt32} (sized : 0 < size) (allowed : size ≤ limit) {shown : List Registration}
    (newest : shown = newestFirst (matching search ((contents world.store).visibleTo user)))
    (fits : pageCount shown.length size.toNat < UInt32.size) :
    ∃ pages, List.Forall₂
        (fun number page => (world.run (pagedList limit user search number size)).1 = .ok page)
        (pageNumbers (pageCount shown.length size.toNat)) pages ∧
      pages.flatMap Page.items = shown := by
  refine ⟨(pageNumbers (pageCount shown.length size.toNat)).map (page · size shown), ?_, ?_⟩
  · rw [List.forall₂_map_right_iff, List.forall₂_same]
    intro number member
    rw [run_pagedList sound, checkPage_accepted (pos_of_mem_pageNumbers fits member) sized allowed,
      newest]
  · rw [List.flatMap_map]
    exact flatMap_all_pages sized shown fits

theorem listingsAgree_of_sound (sound : Sound world.store) (user : Principal) :
    ListingsAgree world user (contents world.store).records
      ⟨(contents world.store).visibleTo user, (contents world.store).hiddenFrom user⟩
      (oldestFirst ((contents world.store).visibleTo user)) := by
  have ordered := LawfulStore.ordered sound
  have visibleIdsOnce : (((contents world.store).visibleTo user).map (·.id)).Nodup :=
    ordered.idsOnce.sublist (List.filter_sublist.map _)
  have sorted := oldestFirst_precedes visibleIdsOnce
  have perm : (oldestFirst ((contents world.store).visibleTo user)).Perm
      ((contents world.store).visibleTo user) :=
    List.mergeSort_perm _ earlier
  constructor
  · exact LawfulStore.listAll sound
  · exact congrArg Prod.fst (run_partition sound user)
  · exact congrArg Prod.fst (run_available_undropped sound user)
  · exact ordered.increasing.filter _
  · exact ordered.increasing.filter _
  · intro record visible hidden
    have authorized := (List.mem_filter.mp visible).2
    have unauthorized := (List.mem_filter.mp hidden).2
    simp [authorized] at unauthorized
  · exact List.filter_append_perm _ _
  · exact (perm.nodup_iff.mpr visibleIdsOnce.of_map)
  · exact perm
  · rfl
  · exact sorted
  · intro limit size sized allowed fits
    rw [← newestFirst_eq_reverse visibleIdsOnce]
    rw [← List.length_reverse, ← newestFirst_eq_reverse visibleIdsOnce] at fits ⊢
    exact exists_pages sound user none sized allowed rfl fits

end

end Registry

/-- After every history the listings of a user agree. A store that had several records of one pair
would have the earliest of them listed that the user may see, and no other. -/
theorem listings_agree (backEnd : BackEnd) (clusters : Clusters) (history : List Operation)
    (user : Principal) :
    (∃ records split listed,
      ListingsAgree ((backEnd.start clusters).after history) user records split listed) ∧
    ∀ {σ γ : Type} [Store σ] [Gateway γ] (crowded : World σ γ) (records : List Registration)
      (grants : List Int64), Store.listAll crowded.store = .ok records →
      (user.isAdmin = false → Store.grantsOf crowded.store user.id = .ok grants) →
      ∃ kept, (crowded.run (available user)).1 = .ok kept ∧
        KeepsEarliest (records.filter (isAuthorized user · grants)) kept := by
  constructor
  · exact ⟨_, _, _, listingsAgree_of_sound (backEnd.sound_after clusters history) user⟩
  · intro σ γ _ _ crowded records grants listed granted
    exact ⟨_, congrArg Prod.fst (run_available_of listed granted), keepsEarliest_firstPerPair _⟩

/-- Bob owns two namespaces and holds a grant for a third. -/
def Listings.registered : List Operation := [
  .insert ⟨1, "alpha", 100, 2, ⟨7, 0, by decide⟩⟩,
  .insert ⟨2, "beta", 100, 1, .epoch⟩,
  .grant 2 2,
  .insert ⟨3, "gamma", 100, 2, .epoch⟩,
  .insert ⟨4, "delta", 100, 1, .epoch⟩]

/-- The name alpha stands twice, the later registration under the smaller id. No history gets
there. -/
def Listings.repeated : World Memory Clusters where
  store := { Memory.empty with
    lastId := 2
    rows := [
      ⟨1, 1, "alpha", 100, 2, ⟨7, 0, by decide⟩, ⟨7, 0, by decide⟩⟩,
      ⟨2, 2, "alpha", 100, 2, .epoch, .epoch⟩] }
  gateway := .withCodes [100]

theorem listings_of_bob_agree :
    let bob : Principal := ⟨2, "bob", .general⟩
    let world := (BackEnd.database.start (.withCodes [100])).after Listings.registered
    (∃ listed pages, (world.run (available bob)).1 = .ok listed ∧ listed.length = 3 ∧
      List.Forall₂ (fun number page => (world.run (pagedList 1000 bob none number 2)).1 = .ok page)
        (pageNumbers 2) pages ∧
      pages.flatMap Page.items = listed.reverse) ∧
    Listings.repeated.store.rows.map Registration.pair = [("alpha", 100), ("alpha", 100)] ∧
    ∃ kept, (Listings.repeated.run (available bob)).1 = .ok kept ∧
      KeepsEarliest (Listings.repeated.store.rows.filter (isAuthorized bob · [])) kept := by
  intro bob world
  have agree := listings_agree .database (.withCodes [100]) Listings.registered bob
  constructor
  · rcases agree.1 with ⟨records, split, listed, agrees⟩
    have sound : Sound world.store := BackEnd.sound_after .database _ _
    have three : ((contents world.store).visibleTo bob).length = 3 := by decide +kernel
    have ran := agrees.available.symm.trans (congrArg Prod.fst (run_available_undropped sound bob))
    have length : listed.length = 3 := by
      rw [Except.ok.inj ran, oldestFirst, List.length_mergeSort, three]
    have twoPages : pageCount listed.length (2 : UInt32).toNat = 2 := by
      rw [length]
      decide
    rcases agrees.pages 1000 2 (by decide) (by decide) (by rw [twoPages]; decide) with
      ⟨pages, shown, joined⟩
    exact ⟨listed, pages, agrees.available, length, twoPages ▸ shown, joined⟩
  · exact ⟨by decide, agree.2 Listings.repeated Listings.repeated.store.rows [] rfl fun _ => rfl⟩

end Tenancy
