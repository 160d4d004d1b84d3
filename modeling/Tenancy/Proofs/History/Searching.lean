import Tenancy.Proofs.History.Pages
import Tenancy.Proofs.Text.Lowercase

/-! Searches of the pages. A term picks out of the whole listing, and in its order, the records that
have the term in their names. Names are in lower case, so it is the lower case of the term that is
looked for, without the white space around it. -/

namespace Tenancy

open Readable Registry Text

/-- The texts differ in the case of ASCII letters at most. -/
def SameButCase (left right : String) : Prop :=
  left.toList.map Char.toLower = right.toList.map Char.toLower

instance (left right : String) : Decidable (SameButCase left right) :=
  inferInstanceAs (Decidable (_ = _))

/-- The name has the term in it, at some position. -/
def Registration.Holds (registration : Registration) (term : List Char) : Prop :=
  ∃ before after, registration.name.toList = before ++ term ++ after

theorem Registration.isInner_of_holds {registration : Registration} {term : List Char}
    (valid : Name.check registration.name = .ok ()) (holds : registration.Holds term) :
    ∀ character ∈ term, Name.isInner character = true := by
  rcases holds with ⟨before, after, split⟩
  intro character member
  apply Name.isInner_of_check valid
  rw [split]
  exact List.mem_append_left after (List.mem_append_right before member)

/-! ## Terms -/

namespace Registry

variable {text other : String} {registrations : List Registration}

theorem matching_none (registrations : List Registration) :
    matching none registrations = registrations := rfl

theorem matching_of_blank (blank : trim text.toList = []) (registrations : List Registration) :
    matching (some text) registrations = registrations := by
  simp only [matching, blank]

/-- The lower case of the trimmed term is all that is looked at. -/
theorem matching_of_filled (filled : trim text.toList ≠ []) (registrations : List Registration) :
    matching (some text) registrations = registrations.filter fun registration =>
      occursIn (lowercase (trim text.toList)) (lowercase registration.name.toList) := by
  simp only [matching]

theorem pagedList_of_blank (blank : trim text.toList = []) (limit : UInt32) (user : Principal)
    (number size : UInt32) :
    pagedList limit user (some text) number size = pagedList limit user none number size := by
  simp only [pagedList, matching_of_blank blank, matching_none]

theorem pagedList_of_sameTrimmed (same : trim text.toList = trim other.toList) (limit : UInt32)
    (user : Principal) (number size : UInt32) :
    pagedList limit user (some text) number size =
      pagedList limit user (some other) number size := by
  simp only [pagedList, matching, same]

theorem pagedList_of_sameButCase (same : SameButCase text other) (limit : UInt32)
    (user : Principal) (number size : UInt32) :
    pagedList limit user (some text) number size =
      pagedList limit user (some other) number size := by
  have trimmed : (trim text.toList).map Char.toLower = (trim other.toList).map Char.toLower := by
    rw [← trim_map_toLower, ← trim_map_toLower, same]
  by_cases blank : trim text.toList = []
  · have otherBlank : trim other.toList = [] := by
      rw [blank, List.map_nil] at trimmed
      exact List.map_eq_nil_iff.mp trimmed.symm
    rw [pagedList_of_blank blank, pagedList_of_blank otherBlank]
  · have otherFilled : trim other.toList ≠ [] := by
      intro otherBlank
      rw [otherBlank, List.map_nil] at trimmed
      exact blank (List.map_eq_nil_iff.mp trimmed)
    simp only [pagedList, matching_of_filled blank, matching_of_filled otherFilled,
      lowercase_eq_of_map_toLower trimmed]

/-- Among valid names nothing is changed in a name before the term is looked for in it. -/
theorem matching_of_valid (filled : trim text.toList ≠ [])
    (valid : ∀ registration ∈ registrations, Name.check registration.name = .ok ()) :
    matching (some text) registrations = registrations.filter fun registration =>
      occursIn (lowercase (trim text.toList)) registration.name.toList := by
  rw [matching_of_filled filled]
  apply List.filter_congr
  intro registration member
  rw [lowercase_of_isInner (Name.isInner_of_check (valid registration member))]

/-- A piece of a name is looked for as it stands. -/
theorem lowercase_trim_of_isInner (inner : ∀ character ∈ text.toList, Name.isInner character = true) :
    trim text.toList = text.toList ∧ lowercase (trim text.toList) = text.toList := by
  have plain : ∀ character, Name.isInner character = true → isBlank character = false :=
    Name.forall_isInner (by decide)
  have trimmed : trim text.toList = text.toList :=
    trim_of_unblank fun character member => plain character (inner character member)
  exact ⟨trimmed, by rw [trimmed, lowercase_of_isInner inner]⟩

end Registry

/-! ## Listings -/

/-- The pages are cut from the whole listing if nothing is searched for, and from a part of it for
each term that is. -/
structure Searches [Store σ] [Gateway γ] (world : World σ γ) (limit : UInt32) (user : Principal)
    (records : List Registration) (grants : List Int64) (whole : List Registration) : Prop where
  unfiltered : Paginates world limit user none records grants whole
  blank : ∀ text, trim text.toList = [] → ∀ number size,
    world.run (pagedList limit user (some text) number size) =
      world.run (pagedList limit user none number size)
  filtered : ∀ text, trim text.toList ≠ [] →
    ∃ found, Paginates world limit user (some text) records grants found ∧ found.Sublist whole ∧
      ∀ record ∈ whole, record ∈ found ↔ record.Holds (lowercase (trim text.toList))
  recased : ∀ text other, SameButCase text other → ∀ number size,
    world.run (pagedList limit user (some text) number size) =
      world.run (pagedList limit user (some other) number size)
  padded : ∀ front text back, Text.blank front = true → Text.blank back = true →
    ∀ number size,
      world.run (pagedList limit user (some (front ++ text ++ back)) number size) =
        world.run (pagedList limit user (some text) number size)
  /-- A piece of a name finds the name. -/
  literal : ∀ text, text ≠ "" → ∀ record ∈ whole, record.Holds text.toList →
    ∃ found, Paginates world limit user (some text) records grants found ∧ record ∈ found
  /-- A term that no name can have in it finds nothing. -/
  foreign : ∀ text, (∃ character ∈ lowercase (trim text.toList), Name.isInner character = false) →
    Paginates world limit user (some text) records grants []

section

variable [Store σ] [Readable σ] [LawfulStore σ] [Gateway γ] {world : World σ γ}

/-- What a term finds, as a part of the whole listing. -/
theorem paginates_of_filled (sound : Sound world.store)
    (valid : ∀ record ∈ (contents world.store).records, Name.check record.name = .ok ())
    (limit : UInt32) (user : Principal) {text : String} (filled : trim text.toList ≠ []) :
    Paginates world limit user (some text) (contents world.store).records
      ((contents world.store).grants user.id)
      ((newestFirst ((contents world.store).visibleTo user)).filter fun record =>
        occursIn (lowercase (trim text.toList)) record.name.toList) := by
  have validVisible (record : Registration)
      (member : record ∈ (contents world.store).visibleTo user) :
      Name.check record.name = .ok () :=
    valid record (List.mem_filter.mp member).1
  have visibleOnce : (((contents world.store).visibleTo user).map (·.id)).Nodup :=
    (LawfulStore.ordered sound).idsOnce.sublist (List.filter_sublist.map _)
  have paginates := paginates_of_sound sound limit user (some text)
  rwa [matching_of_valid filled validVisible, newestFirst_filter visibleOnce] at paginates

/-- Searching is filtering, in every state whose names are valid. What is typed may differ in the
case of ASCII letters and in the white space around it. -/
theorem search_is_a_filter (sound : Sound world.store)
    (valid : ∀ record ∈ (contents world.store).records, Name.check record.name = .ok ())
    (limit : UInt32) (user : Principal) :
    ∃ records grants whole, Searches world limit user records grants whole := by
  let whole := newestFirst ((contents world.store).visibleTo user)
  have unfiltered := paginates_of_sound sound limit user none
  have validWhole (record : Registration) (member : record ∈ whole) :
      Name.check record.name = .ok () :=
    valid record ((unfiltered.mem_iff record).mp member).1
  have mem_filter {text : String} {record : Registration} (member : record ∈ whole) :
      record ∈ whole.filter (fun record =>
          occursIn (lowercase (trim text.toList)) record.name.toList) ↔
        record.Holds (lowercase (trim text.toList)) := by
    rw [List.mem_filter, occursIn_iff]
    exact ⟨fun both => both.2, fun holds => ⟨member, holds⟩⟩
  refine ⟨_, _, whole, unfiltered, ?_, ?_, ?_, ?_, ?_, ?_⟩
  · intro text blank number size
    rw [pagedList_of_blank blank]
  · intro text filled
    exact ⟨_, paginates_of_filled sound valid limit user filled, List.filter_sublist,
      fun record member => mem_filter member⟩
  · intro text other same number size
    rw [pagedList_of_sameButCase same]
  · intro front text back frontBlank backBlank number size
    have trimmed : trim (front ++ text ++ back).toList = trim text.toList := by
      rw [String.toList_append, String.toList_append]
      exact trim_append (List.all_eq_true.mp frontBlank) (List.all_eq_true.mp backBlank)
    rw [pagedList_of_sameTrimmed trimmed]
  · intro text nonempty record member holds
    have asItStands := lowercase_trim_of_isInner
      (Registration.isInner_of_holds (validWhole record member) holds)
    have filled : trim text.toList ≠ [] := by
      rw [asItStands.1]
      exact fun empty => nonempty (String.toList_eq_nil_iff.mp empty)
    refine ⟨_, paginates_of_filled sound valid limit user filled, (mem_filter member).mpr ?_⟩
    rw [asItStands.2]
    exact holds
  · rintro text ⟨character, member, foreign⟩
    have filled : trim text.toList ≠ [] := by
      intro blank
      rw [blank] at member
      cases member
    have nothing : whole.filter (fun record =>
        occursIn (lowercase (trim text.toList)) record.name.toList) = [] := by
      apply List.eq_nil_iff_forall_not_mem.mpr
      intro record found
      have inWhole := (List.mem_filter.mp found).1
      have inner := Registration.isInner_of_holds (validWhole record inWhole)
        ((mem_filter inWhole).mp found)
      rw [inner character member] at foreign
      cases foreign
    exact nothing ▸ paginates_of_filled sound valid limit user filled

end

/-- Bob owns one namespace and holds a grant for another. -/
def Searching.registered : List Operation := [
  .request (.register ⟨2, "bob", .general⟩ "kube-1" 100 ⟨1, .epoch⟩),
  .request (.register ⟨1, "alice", .general⟩ "team-k" 100 ⟨2, .epoch⟩),
  .request (.register ⟨1, "alice", .general⟩ "kube-2" 100 ⟨3, .epoch⟩),
  .grant 2 2]

/-- The lower case of a kelvin sign is a k, though the sign is no ASCII letter. -/
theorem kelvin_sign_finds_kube :
    let bob : Principal := ⟨2, "bob", .general⟩
    let world := (BackEnd.database.start (.withCodes [100])).after Searching.registered
    let listed (text : String) := (world.run (pagedList 1000 bob (some text) 1 10)).1
    Sound world.store ∧
      (∀ record ∈ (contents world.store).records, Name.check record.name = .ok ()) ∧
      (∃ records grants whole, Searches world 1000 bob records grants whole) ∧
      (∃ page, listed "\u2003\u212AUbe " = .ok page ∧ page.items.map (·.name) = ["kube-1"]) ∧
      ∃ page, listed "kube_1" = .ok page ∧ page.items = [] ∧ page.total.toNat = 0 := by
  intro bob world listed
  have sound : Sound world.store := BackEnd.sound_after .database _ _
  have valid : ∀ record ∈ (contents world.store).records, Name.check record.name = .ok () := by
    decide
  have searches := search_is_a_filter sound valid 1000 bob
  refine ⟨sound, valid, searches, ?_, ?_⟩
  · have same : listed "\u2003\u212AUbe " = listed "\u212Aube" := by
      rcases searches with ⟨records, grants, whole, searches⟩
      have padded := searches.padded "\u2003" "\u212AUbe" " " (by decide) (by decide) 1 10
      have recased := searches.recased "\u212AUbe" "\u212Aube" (by decide) 1 10
      exact congrArg Prod.fst (padded.trans recased)
    have found : (matching (some "\u212Aube") ((contents world.store).visibleTo bob)).map (·.name) =
        ["kube-1"] := by
      decide
    rcases List.map_eq_singleton_iff.mp found with ⟨record, single, name⟩
    refine ⟨page 1 10 [record], ?_, congrArg (fun name => [name]) name⟩
    rw [same]
    change (world.run (pagedList 1000 bob (some "\u212Aube") 1 10)).1 = _
    rw [run_pagedList sound, single, newestFirst, List.mergeSort_singleton]
    rfl
  · rcases searches with ⟨records, grants, whole, searches⟩
    have nothing := searches.foreign "kube_1" ⟨'_', by decide, by decide⟩
    rcases nothing.shown 1 10 (by decide) with ⟨page, ran, shows⟩
    refine ⟨page, ran, ?_, shows.total⟩
    rw [shows.items, List.drop_nil, List.take_nil]

end Tenancy
