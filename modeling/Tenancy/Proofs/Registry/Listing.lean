import Tenancy.Proofs.Store.Lawful
import Tenancy.Registry.Listing

/-! What the listings answer over a lawful store. Each is a function of the contents of the store,
and none changes the world. -/

namespace Tenancy

open Readable Registry

namespace Contents

/-- The records a user may see, in the order of their ids. -/
def visibleTo (contents : Contents) (user : Principal) : List Registration :=
  contents.records.filter (isAuthorized user · (contents.grants user.id))

def hiddenFrom (contents : Contents) (user : Principal) : List Registration :=
  contents.records.filter (!isAuthorized user · (contents.grants user.id))

/-- The answer to an admin who asks for a part of another user's partition. -/
def partitionFor (contents : Contents) (caller : Principal) (user : Int64)
    (part : Partition → List Registration) : Except RegistryError (List Registration) :=
  if caller.isAdmin then
    match contents.users user with
    | none => .error (unknownUser user)
    | some subject => .ok (part ⟨contents.visibleTo subject, contents.hiddenFrom subject⟩)
  else .error (mayNotAsk caller)

theorem inIdOrder_records {contents : Contents} (ordered : contents.Ordered) :
    inIdOrder contents.records = contents.records := by
  apply List.mergeSort_of_pairwise
  apply ordered.increasing.imp
  intro left right smaller
  rw [Std.isLE_compare]
  grind

end Contents

/-! ## Members of the listings -/

namespace Registry

theorem firstPerPair_sublist (seen : List (String × Int64)) (registrations : List Registration) :
    (firstPerPair seen registrations).Sublist registrations := by
  induction registrations generalizing seen with
  | nil => exact .slnil
  | cons head rest induction =>
      unfold firstPerPair
      by_cases known : head.pair ∈ seen
      · rw [if_pos known]
        exact (induction seen).cons head
      · rw [if_neg known]
        exact (induction (head.pair :: seen)).cons_cons head

theorem mem_of_mem_firstPerPair {registration : Registration} {seen : List (String × Int64)}
    {registrations : List Registration}
    (member : registration ∈ firstPerPair seen registrations) : registration ∈ registrations :=
  (firstPerPair_sublist seen registrations).subset member

/-- No pair is listed twice, and none that was seen before. -/
theorem firstPerPair_pairsOnce (seen : List (String × Int64)) (registrations : List Registration) :
    ((firstPerPair seen registrations).map Registration.pair).Nodup ∧
      ∀ registration ∈ firstPerPair seen registrations, registration.pair ∉ seen := by
  induction registrations generalizing seen with
  | nil => exact ⟨.nil, fun _ member => absurd member List.not_mem_nil⟩
  | cons head rest induction =>
      unfold firstPerPair
      by_cases known : head.pair ∈ seen
      · rw [if_pos known]
        exact induction seen
      · rw [if_neg known]
        have later := induction (head.pair :: seen)
        constructor
        · rw [List.map_cons, List.nodup_cons]
          refine ⟨?_, later.1⟩
          intro again
          rcases List.mem_map.mp again with ⟨registration, member, equal⟩
          exact later.2 registration member (equal ▸ List.mem_cons_self)
        · intro registration member
          rcases List.mem_cons.mp member with rfl | member
          · exact known
          · exact fun before => later.2 registration member (List.mem_cons_of_mem _ before)

/-- Of a list in order, the registration that is kept for a pair comes before all others of the
pair. -/
theorem exists_firstPerPair {order : Registration → Registration → Prop}
    (reflexive : ∀ registration, order registration registration)
    {registrations : List Registration} (sorted : registrations.Pairwise order)
    {seen : List (String × Int64)} {registration : Registration}
    (member : registration ∈ registrations) (unseen : registration.pair ∉ seen) :
    ∃ kept ∈ firstPerPair seen registrations,
      kept.pair = registration.pair ∧ order kept registration := by
  induction registrations generalizing seen with
  | nil => cases member
  | cons head rest induction =>
      have parts := List.pairwise_cons.mp sorted
      unfold firstPerPair
      by_cases known : head.pair ∈ seen
      · rw [if_pos known]
        rcases List.mem_cons.mp member with rfl | later
        · exact absurd known unseen
        · exact induction parts.2 later unseen
      · rw [if_neg known]
        by_cases same : head.pair = registration.pair
        · refine ⟨head, List.mem_cons_self, same, ?_⟩
          rcases List.mem_cons.mp member with rfl | later
          · exact reflexive registration
          · exact parts.1 registration later
        · rcases List.mem_cons.mp member with rfl | later
          · exact absurd rfl same
          · have stillUnseen : registration.pair ∉ head.pair :: seen := by
              rw [List.mem_cons, not_or]
              exact ⟨Ne.symm same, unseen⟩
            rcases induction parts.2 later stillUnseen with ⟨kept, keptMember, equal, before⟩
            exact ⟨kept, List.mem_cons_of_mem head keptMember, equal, before⟩

theorem firstPerPair_eq_self {seen : List (String × Int64)} {registrations : List Registration}
    (once : (registrations.map Registration.pair).Nodup)
    (unseen : ∀ registration ∈ registrations, registration.pair ∉ seen) :
    firstPerPair seen registrations = registrations := by
  induction registrations generalizing seen with
  | nil => rfl
  | cons head rest induction =>
      rw [List.map_cons, List.nodup_cons] at once
      rw [firstPerPair, if_neg (unseen head List.mem_cons_self), induction once.2]
      intro registration member
      rw [List.mem_cons, not_or]
      constructor
      · exact fun equal => once.1 (equal ▸ List.mem_map_of_mem member)
      · exact unseen registration (List.mem_cons_of_mem head member)

/-- What a search asks of a registration, if its term counts. -/
def Found (search : Option String) (registration : Registration) : Prop :=
  ∀ term ∈ search, Text.trim term.toList = [] ∨
    Text.occursIn (Text.lowercase (Text.trim term.toList))
      (Text.lowercase registration.name.toList) = true

theorem mem_matching {registration : Registration} {search : Option String}
    {registrations : List Registration} :
    registration ∈ matching search registrations ↔
      registration ∈ registrations ∧ Found search registration := by
  cases search with
  | none => simp [matching, Found]
  | some term =>
      simp only [matching, Found, Option.mem_def, Option.some.injEq, forall_eq']
      cases Text.trim term.toList with
      | nil => simp
      | cons first rest => simp

/-- A search is a filter, whether the term counts or not. -/
theorem matching_eq_filter (search : Option String) :
    ∃ found : Registration → Bool, ∀ registrations,
      matching search registrations = registrations.filter found := by
  have unfiltered (registrations : List Registration) :
      registrations = registrations.filter fun _ => true :=
    (List.filter_true registrations).symm
  cases search with
  | none => exact ⟨_, unfiltered⟩
  | some term =>
      simp only [matching]
      cases Text.trim term.toList with
      | nil => exact ⟨_, unfiltered⟩
      | cons first rest => exact ⟨_, fun _ => rfl⟩

theorem mem_of_mem_matching {registration : Registration} {search : Option String}
    {registrations : List Registration}
    (member : registration ∈ matching search registrations) : registration ∈ registrations :=
  (mem_matching.mp member).1

theorem mem_of_mem_page {registration : Registration} {number size : UInt32}
    {registrations : List Registration}
    (member : registration ∈ (page number size registrations).items) :
    registration ∈ registrations :=
  List.mem_of_mem_drop (List.mem_of_mem_take member)

/-! ## Runs of the listings -/

/-- An admin is authorized with whatever grants, so the grants of an admin need not be looked up. -/
theorem isAuthorized_of_isAdmin {user : Principal} (admin : user.isAdmin = true)
    (registration : Registration) (grants : List Int64) :
    isAuthorized user registration grants = true := by
  simp [isAuthorized, canManage, admin]

theorem isAuthorized_iff (user : Principal) (registration : Registration) (grants : List Int64) :
    isAuthorized user registration grants = true ↔
      user.isAdmin = true ∨ registration.owner = user.id ∨ registration.id ∈ grants := by
  simp [isAuthorized, canManage, or_assoc]

section

variable [Store σ] [Gateway γ] {world : World σ γ} {records : List Registration}
  {grants : List Int64}

theorem run_withAll (listed : Store.listAll world.store = .ok records)
    (next : List Registration → Attempt α) :
    world.run (withAll next) = world.run (next records) := by
  simp only [World.run, withAll, Procedure.run, World.answering, listed]

/-- The grants of an admin are not asked for. -/
theorem run_withGrants {user : Principal}
    (granted : user.isAdmin = false → Store.grantsOf world.store user.id = .ok grants)
    (next : List Int64 → Attempt α)
    (indifferent : user.isAdmin = true → ∀ grants, next grants = next []) :
    world.run (withGrants user next) = world.run (next grants) := by
  by_cases admin : user.isAdmin = true
  · rw [withGrants, if_pos admin, indifferent admin grants]
  · rw [withGrants, if_neg admin]
    simp only [World.run, Procedure.run, World.answering, granted (Bool.eq_false_iff.mpr admin)]

theorem run_withVisible_of {user : Principal} (listed : Store.listAll world.store = .ok records)
    (granted : user.isAdmin = false → Store.grantsOf world.store user.id = .ok grants)
    (next : List Registration → Attempt α) :
    world.run (withVisible user next) =
      world.run (next (records.filter (isAuthorized user · grants))) := by
  rw [withVisible, run_withAll listed, run_withGrants granted]
  intro admin grants
  simp [isAuthorized_of_isAdmin admin]

theorem run_partition_of {user : Principal} (listed : Store.listAll world.store = .ok records)
    (granted : Store.grantsOf world.store user.id = .ok grants) :
    world.run (partition user) = (.ok (.of user grants (inIdOrder records)), world) := by
  rw [partition, run_withAll listed, run_withGrants fun _ => granted]
  · rfl
  · intro admin grants
    simp [Partition.of, isAuthorized_of_isAdmin admin]

theorem run_available_of {user : Principal} (listed : Store.listAll world.store = .ok records)
    (granted : user.isAdmin = false → Store.grantsOf world.store user.id = .ok grants) :
    world.run (available user) =
      (.ok (firstPerPair [] (oldestFirst (records.filter (isAuthorized user · grants)))), world) := by
  rw [available, run_withVisible_of listed granted]
  rfl

/-- The store is not even asked whether there is such a user. -/
theorem run_withSubject_of_general {caller : Principal} (general : ¬caller.isAdmin = true)
    (user : Int64) (next : Principal → Attempt α) :
    world.run (withSubject caller user next) = (.error (mayNotAsk caller), world) := by
  rw [withSubject, if_neg general]
  rfl

end

section

variable [Store σ] [Readable σ] [LawfulStore σ] [Gateway γ] {world : World σ γ}

theorem run_partition (sound : Sound world.store) (user : Principal) :
    world.run (partition user) =
      (.ok ⟨(contents world.store).visibleTo user, (contents world.store).hiddenFrom user⟩,
        world) := by
  rw [run_partition_of (LawfulStore.listAll sound) (LawfulStore.grantsOf sound user.id),
    Contents.inIdOrder_records (LawfulStore.ordered sound)]
  rfl

theorem run_withVisible (sound : Sound world.store) (user : Principal)
    (next : List Registration → Attempt α) :
    world.run (withVisible user next) =
      world.run (next ((contents world.store).visibleTo user)) :=
  run_withVisible_of (LawfulStore.listAll sound) (fun _ => LawfulStore.grantsOf sound user.id) next

theorem run_available (sound : Sound world.store) (user : Principal) :
    world.run (available user) =
      (.ok (firstPerPair [] (oldestFirst ((contents world.store).visibleTo user))), world) :=
  run_available_of (LawfulStore.listAll sound) fun _ => LawfulStore.grantsOf sound user.id

theorem run_pagedList (sound : Sound world.store) (limit : UInt32) (user : Principal)
    (search : Option String) (number size : UInt32) :
    world.run (pagedList limit user search number size) =
      (match checkPage number size limit with
        | .error fault => .error fault.toRegistry
        | .ok () => .ok (page number size
            (newestFirst (matching search ((contents world.store).visibleTo user)))), world) := by
  unfold pagedList
  cases checkPage number size limit with
  | error fault => rfl
  | ok _ => exact run_withVisible sound user _

theorem run_withSubject (sound : Sound world.store) (caller : Principal) (user : Int64)
    (next : Principal → Attempt α) :
    world.run (withSubject caller user next) =
      if caller.isAdmin then
        match (contents world.store).users user with
        | none => (.error (unknownUser user), world)
        | some subject => world.run (next subject)
      else (.error (mayNotAsk caller), world) := by
  by_cases admin : caller.isAdmin = true
  · rw [withSubject, if_pos admin, if_pos admin]
    simp only [World.run, Procedure.run, World.answering, LawfulStore.findUser sound]
    cases (contents world.store).users user with
    | none => rfl
    | some subject => rfl
  · rw [run_withSubject_of_general admin, if_neg admin]

/-- Both questions about another user are answered with a part of that user's partition. -/
theorem run_partitionFor (sound : Sound world.store) (caller : Principal) (user : Int64)
    (part : Partition → List Registration) :
    world.run (withSubject caller user fun subject => (partition subject).map (Except.map part)) =
      ((contents world.store).partitionFor caller user part, world) := by
  have answer (subject : Principal) :
      world.run ((partition subject).map (Except.map part)) =
        (.ok (part ⟨(contents world.store).visibleTo subject,
          (contents world.store).hiddenFrom subject⟩), world) := by
    have ran := run_partition sound subject
    rw [World.run] at ran ⊢
    rw [Procedure.run_map, ran]
    rfl
  simp only [run_withSubject sound, answer, Contents.partitionFor]
  by_cases admin : caller.isAdmin = true
  · rw [if_pos admin, if_pos admin]
    cases (contents world.store).users user with
    | none => rfl
    | some subject => rfl
  · rw [if_neg admin, if_neg admin]

end

end Registry

end Tenancy
