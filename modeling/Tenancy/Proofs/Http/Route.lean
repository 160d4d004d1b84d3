import Mathlib.Data.List.Basic
import Mathlib.Tactic.SplitIfs
import Tenancy.Http.Route

/-! Every resource has one path, and every path leads to at most one resource. -/

namespace Tenancy.Http.Resource

def path : Resource → List Char
  | health => "/health".toList
  | collection => root
  | verification => child "verify"
  | available => child "available-list"
  | unauthorized => child "unauth-namespace"
  | authorized => child "authed-namespace"
  | item segment => root ++ '/' :: segment

/-- The segments that name a part of the service and no registration. -/
def fixedSegments : List (List Char) :=
  ["verify".toList, "available-list".toList, "unauth-namespace".toList, "authed-namespace".toList]

/-- A registration is named by one segment, which is not empty and has no other meaning. -/
structure Names (segment : List Char) : Prop where
  nonempty : segment ≠ []
  single : '/' ∉ segment
  free : segment ∉ fixedSegments

instance (segment : List Char) : Decidable (Names segment) :=
  decidable_of_iff (segment ≠ [] ∧ '/' ∉ segment ∧ segment ∉ fixedSegments)
    ⟨fun parts => ⟨parts.1, parts.2.1, parts.2.2⟩,
      fun names => ⟨names.nonempty, names.single, names.free⟩⟩

theorem segment?_eq_some_iff {rest segment : List Char} :
    segment? rest = some segment ↔ rest = '/' :: segment ∧ segment ≠ [] ∧ '/' ∉ segment := by
  unfold segment?
  split
  next first others =>
    by_cases slashed : '/' ∈ first :: others
    · simp only [List.contains_iff_mem, slashed, if_true]
      constructor
      · intro equal
        cases equal
      · rintro ⟨equal, -, single⟩
        exact absurd ((List.cons.inj equal).2 ▸ slashed) single
    · simp only [List.contains_iff_mem, slashed, if_false, Option.some.injEq]
      constructor
      · rintro rfl
        exact ⟨rfl, List.cons_ne_nil _ _, slashed⟩
      · exact fun parts => (List.cons.inj parts.1).2
  next other =>
    constructor
    · intro equal
      cases equal
    · rintro ⟨rfl, nonempty, -⟩
      rcases List.exists_cons_of_ne_nil nonempty with ⟨first, others, rfl⟩
      exact absurd rfl (other first others)

theorem item_path_ne_child {segment : List Char} (names : Names segment) {name : String}
    (fixed : name.toList ∈ fixedSegments) : (item segment).path ≠ child name := by
  intro equal
  have same : segment = name.toList := (List.cons.inj (List.append_cancel_left equal)).2
  exact names.free (same ▸ fixed)

theorem ofPath?_item {segment : List Char} (names : Names segment) :
    ofPath? (item segment).path = some (item segment) := by
  have notHealth : (item segment).path ≠ "/health".toList := by
    intro equal
    have second : some 'a' = some 'h' := congrArg (·[1]?) equal
    exact absurd second (by decide)
  have notRoot : (item segment).path ≠ root := by
    intro equal
    exact List.cons_ne_nil _ _ (List.append_cancel_left (equal.trans (List.append_nil root).symm))
  have below : root.isPrefixOf (item segment).path = true :=
    List.isPrefixOf_iff_prefix.mpr (List.prefix_append root _)
  have rest : (item segment).path.drop root.length = '/' :: segment :=
    List.drop_left
  have segmented : segment? ('/' :: segment) = some segment :=
    segment?_eq_some_iff.mpr ⟨rfl, names.nonempty, names.single⟩
  rw [ofPath?, if_neg notHealth, if_neg notRoot,
    if_neg (item_path_ne_child names (by decide)), if_neg (item_path_ne_child names (by decide)),
    if_neg (item_path_ne_child names (by decide)), if_neg (item_path_ne_child names (by decide)),
    if_pos below, rest, segmented]
  rfl

theorem ofPath?_path {resource : Resource}
    (named : ∀ segment, resource = item segment → Names segment) :
    ofPath? resource.path = some resource := by
  cases resource with
  | item segment => exact ofPath?_item (named segment rfl)
  | health | collection | verification | available | unauthorized | authorized => decide

/-- A path that leads to a resource is the path of that resource. -/
theorem of_ofPath? {sent : List Char} {resource : Resource} (leads : ofPath? sent = some resource) :
    sent = resource.path ∧ ∀ segment, resource = item segment → Names segment := by
  unfold ofPath? at leads
  split_ifs at leads with health collection verification available unauthorized authorized below
  · cases leads
    exact ⟨health, nofun⟩
  · cases leads
    exact ⟨collection, nofun⟩
  · cases leads
    exact ⟨verification, nofun⟩
  · cases leads
    exact ⟨available, nofun⟩
  · cases leads
    exact ⟨unauthorized, nofun⟩
  · cases leads
    exact ⟨authorized, nofun⟩
  · rcases Option.map_eq_some_iff.mp leads with ⟨segment, segmented, rfl⟩
    rcases List.isPrefixOf_iff_prefix.mp below with ⟨rest, rfl⟩
    rw [List.drop_left] at segmented
    rcases segment?_eq_some_iff.mp segmented with ⟨rfl, nonempty, single⟩
    refine ⟨rfl, fun other equal => ?_⟩
    cases equal
    refine ⟨nonempty, single, fun fixed => ?_⟩
    simp only [fixedSegments, List.mem_cons, List.not_mem_nil, or_false] at fixed
    rcases fixed with rfl | rfl | rfl | rfl
    · exact verification rfl
    · exact available rfl
    · exact unauthorized rfl
    · exact authorized rfl

end Tenancy.Http.Resource
