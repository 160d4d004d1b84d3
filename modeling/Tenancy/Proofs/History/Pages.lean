import Tenancy.Proofs.History.Listings

/-! The pages of a listing, for every request that can be made for one. Whatever their size, they cut
one sorted list of the matching records a user may see into stretches, and none of it is lost or shown
twice. -/

namespace Tenancy

open Readable Registry

namespace Registry

/-- What a page of a listing shows, told by its number and its size. -/
structure Shows (listing : List Registration) (number size : UInt32) (page : Page Registration) :
    Prop where
  items : page.items = (listing.drop (offset number size).toNat).take size.toNat
  /-- The count of 64 bits does not go around. -/
  offset : (offset number size).toNat = (number.toNat - 1) * size.toNat
  count : (page.items.length : Int) =
    max 0 (min (size.toNat : Int) (listing.length - ((number.toNat : Int) - 1) * size.toNat))
  total : page.total.toNat = listing.length
  newestFirst : page.items.Pairwise fun left right => Precedes right left
  beyond : pageCount listing.length size.toNat < number.toNat → page.items = []
  number : page.number = number
  size : page.size = size

/-- The store has these records, the user holds these grants, and every page is cut from one
listing. -/
structure Paginates [Store σ] [Gateway γ] (world : World σ γ) (limit : UInt32) (user : Principal)
    (search : Option String) (records : List Registration) (grants : List Int64)
    (listing : List Registration) : Prop where
  listAll : Store.listAll world.store = .ok records
  grantsOf : Store.grantsOf world.store user.id = .ok grants
  mem_iff : ∀ record, record ∈ listing ↔
    record ∈ records ∧ isAuthorized user record grants = true ∧ Found search record
  newestFirst : listing.Pairwise fun left right => Precedes right left
  refused : ∀ number size,
    (∃ text, (world.run (pagedList limit user search number size)).1 =
      .error (.invalidArgument text)) ↔ number = 0 ∨ size = 0 ∨ limit < size
  shown : ∀ number size, ¬(number = 0 ∨ size = 0 ∨ limit < size) →
    ∃ page, (world.run (pagedList limit user search number size)).1 = .ok page ∧
      Shows listing number size page
  /-- All pages of any size that is allowed, so long as they can be numbered. -/
  together : ∀ size, ¬(size = 0 ∨ limit < size) →
    pageCount listing.length size.toNat < UInt32.size →
    ∃ pages, List.Forall₂
        (fun number page => (world.run (pagedList limit user search number size)).1 = .ok page)
        (pageNumbers (pageCount listing.length size.toNat)) pages ∧
      pages.flatMap Page.items = listing

/-- Requests for pages are refused by their numbers alone. -/
theorem checkPage_cases (number size limit : UInt32) :
    ((number = 0 ∨ size = 0 ∨ limit < size) ∧
      ∃ fault, checkPage number size limit = .error fault) ∨
    (¬(number = 0 ∨ size = 0 ∨ limit < size) ∧ checkPage number size limit = .ok ()) := by
  unfold checkPage
  grind

theorem shows_page {listing : List Registration} {number size : UInt32}
    (sorted : listing.Pairwise fun left right => Precedes right left)
    (fits : listing.length < UInt64.size) (numbered : 0 < number) (sized : 0 < size) :
    Shows listing number size (page number size listing) := by
  have positive : 1 ≤ number.toNat := UInt32.lt_iff_toNat_lt.mp numbered
  have begins := toNat_offset numbered size
  constructor
  · rw [begins, page]
  · exact begins
  · have cast : ((number.toNat : Int) - 1) * size.toNat = ((number.toNat - 1) * size.toNat : Nat) := by
      rw [Int.natCast_mul, Int.natCast_sub positive]
      rfl
    rw [length_items, cast]
    omega
  · exact UInt64.toNat_ofNat_of_lt' fits
  · exact sorted.sublist ((List.take_sublist _ _).trans (List.drop_sublist _ _))
  · exact items_beyond sized
  · rfl
  · rfl

section

variable [Store σ] [Readable σ] [LawfulStore σ] [Gateway γ] {world : World σ γ}

theorem paginates_of_sound (sound : Sound world.store) (limit : UInt32) (user : Principal)
    (search : Option String) :
    Paginates world limit user search (contents world.store).records
      ((contents world.store).grants user.id)
      (newestFirst (matching search ((contents world.store).visibleTo user))) := by
  have ordered := LawfulStore.ordered sound
  let listing := newestFirst (matching search ((contents world.store).visibleTo user))
  have sublist : (matching search ((contents world.store).visibleTo user)).Sublist
      (contents world.store).records := by
    rcases matching_eq_filter search with ⟨found, filters⟩
    rw [filters]
    exact List.filter_sublist.trans List.filter_sublist
  have idsOnce := ordered.idsOnce.sublist (sublist.map _)
  have sorted : listing.Pairwise fun left right => Precedes right left := by
    simp only [listing, newestFirst_eq_reverse idsOnce]
    exact List.pairwise_reverse.mpr (oldestFirst_precedes idsOnce)
  have fits : listing.length < UInt64.size := by
    have fewer : listing.length ≤ (contents world.store).records.length := by
      simp only [listing, newestFirst, List.length_mergeSort]
      exact sublist.length_le
    have given := ordered.length_le
    have last := (contents world.store).lastId.toInt_lt
    simp only [UInt64.size]
    omega
  have run (number size : UInt32) :=
    congrArg Prod.fst (run_pagedList sound limit user search number size)
  have positive {count : UInt32} (nonzero : ¬count = 0) : 0 < count := by grind
  constructor
  · exact LawfulStore.listAll sound
  · exact LawfulStore.grantsOf sound user.id
  · intro record
    rw [newestFirst, List.mem_mergeSort, mem_matching, Contents.visibleTo, List.mem_filter,
      and_assoc]
  · exact sorted
  · intro number size
    rw [run]
    rcases checkPage_cases number size limit with ⟨bad, fault, refused⟩ | ⟨good, accepted⟩
    · rw [refused]
      exact ⟨fun _ => bad, fun _ => ⟨fault.message, rfl⟩⟩
    · rw [accepted]
      exact ⟨nofun, fun bad => absurd bad good⟩
  · intro number size good
    have accepted := (checkPage_cases number size limit).resolve_left fun bad => good bad.1
    simp only [not_or] at good
    refine ⟨page number size listing, by rw [run, accepted.2], ?_⟩
    exact shows_page sorted fits (positive good.1) (positive good.2.1)
  · intro size good numbered
    simp only [not_or] at good
    exact exists_pages sound user search (positive good.1) (UInt32.not_lt.mp good.2) rfl numbered

end

end Registry

/-- In every state of a store, and so after every history over either back end, pages are refused for
their numbers only, and those that are shown make up one listing. -/
theorem pagination_is_exact [Store σ] [Readable σ] [LawfulStore σ] [Gateway γ] {world : World σ γ}
    (sound : Sound world.store) (limit : UInt32) (user : Principal) (search : Option String) :
    ∃ records grants listing, Paginates world limit user search records grants listing :=
  ⟨_, _, _, paginates_of_sound sound limit user search⟩

/-- Bob sees three namespaces with an a in their names. The second page of two has one left. -/
theorem second_page_of_bob :
    let bob : Principal := ⟨2, "bob", .general⟩
    let world := (BackEnd.database.start (.withCodes [100])).after Listings.registered
    Sound world.store ∧
      ∃ records grants listing, Paginates world 1000 bob (some " A ") records grants listing ∧
        listing.length = 3 ∧
        (∃ page, (world.run (pagedList 1000 bob (some " A ") 2 2)).1 = .ok page ∧
          Shows listing 2 2 page ∧ page.items.length = 1) ∧
        ∃ text, (world.run (pagedList 1000 bob (some " A ") 2 1001)).1 =
          .error (.invalidArgument text) := by
  intro bob world
  have sound : Sound world.store := BackEnd.sound_after .database _ _
  have found : (matching (some " A ") ((contents world.store).visibleTo bob)).length = 3 := by
    decide +kernel
  rcases pagination_is_exact sound 1000 bob (some " A ") with ⟨records, grants, listing, paginates⟩
  rcases paginates.shown 2 2 (by decide) with ⟨second, ran, shows⟩
  have total : second.total = 3 := by
    have same := ran.symm.trans (congrArg Prod.fst (run_pagedList sound 1000 bob (some " A ") 2 2))
    rw [Except.ok.inj same, page, newestFirst, List.length_mergeSort, found]
    rfl
  have length : listing.length = 3 := by
    rw [← shows.total, total]
    rfl
  have count := shows.count
  rw [length] at count
  exact ⟨sound, records, grants, listing, paginates, length,
    ⟨second, ran, shows, Int.ofNat_inj.mp count⟩, (paginates.refused 2 1001).mpr (by decide)⟩

end Tenancy
