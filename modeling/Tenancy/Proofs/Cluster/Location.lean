import Mathlib.Data.List.DropRight
import Mathlib.Data.List.TakeDrop
import Tenancy.Cluster.Location

/-! The URLs that requests to a location have. They continue the text the location was read from,
once that ends where its query would start, and not with slashes. -/

namespace Tenancy.Location

def startsQuery (character : Char) : Bool :=
  character == '?' || character == '#'

/-- A URL up to its query and fragment, without the slashes at the end. -/
def stem (url : String) : String :=
  .ofList (((lowerScheme url.toList).takeWhile (!startsQuery ·)).rdropWhile (· == '/'))

def origin (location : Location) : String :=
  match location.scheme with
  | some scheme => scheme ++ "://" ++ location.authority
  | none => location.authority

theorem url_eq (location : Location) (path : String) :
    location.url path = location.origin ++
      .ofList ((location.path.toList.takeWhile (· != '?')).rdropWhile (· == '/')) ++ path := rfl

theorem takeWhile_not_startsQuery (text : List Char) :
    (text.takeWhile (· != '#')).takeWhile (· != '?') = text.takeWhile (!startsQuery ·) := by
  rw [List.takeWhile_takeWhile]
  congr
  funext character
  simp [startsQuery, bne, Bool.beq_eq_decide_eq]

theorem rdropWhile_append {keep : α → Bool} {front : List α}
    (ends : ∀ last ∈ front.getLast?, keep last = false) (back : List α) :
    (front ++ back).rdropWhile keep = front ++ back.rdropWhile keep := by
  unfold List.rdropWhile
  rw [List.reverse_append, List.dropWhile_append]
  split
  · next all =>
      rw [List.isEmpty_iff.mp all, List.reverse_nil, List.append_nil]
      cases turned : front.reverse with
      | nil => simpa using turned
      | cons last others =>
          have isLast : last ∈ front.getLast? := by
            rw [← List.head?_reverse, turned]
            rfl
          rw [List.dropWhile_cons_of_neg (by simp [ends last isLast]), ← turned,
            List.reverse_reverse]
  · rw [List.reverse_append, List.reverse_reverse]

/-- A text is cut into the origin of a location and the rest of it. -/
structure Cut (url : String) (location : Location) (rest : List Char) : Prop where
  whole : lowerScheme url.toList = location.origin.toList ++ rest
  path : location.path.toList = rest.takeWhile (· != '#')
  plain : ∀ character ∈ location.origin.toList, startsQuery character = false
  ends : ∀ last ∈ location.origin.toList.getLast?, (last == '/') = false

theorem Cut.url_eq {url : String} {location : Location} {rest : List Char}
    (cut : Cut url location rest) (path : String) : location.url path = stem url ++ path := by
  have front : (lowerScheme url.toList).takeWhile (!startsQuery ·) =
      location.origin.toList ++ rest.takeWhile (!startsQuery ·) := by
    rw [cut.whole, List.takeWhile_append_of_pos]
    intro character member
    rw [cut.plain character member]
    rfl
  rw [Location.url_eq, stem, front, rdropWhile_append cut.ends, cut.path,
    takeWhile_not_startsQuery, String.ofList_append, String.ofList_toList]

/-! ## Reading -/

theorem span_eq_append {keep : α → Bool} {text front back : List α}
    (split : text.span keep = (front, back)) :
    text = front ++ back ∧ ∀ element ∈ front, keep element = true := by
  rw [List.span_eq_takeWhile_dropWhile] at split
  cases split
  exact ⟨List.takeWhile_append_dropWhile.symm, fun _ member => List.mem_takeWhile_imp member⟩

theorem splitScheme_eq_scheme {text name rest : List Char}
    (split : splitScheme text = .scheme name rest) :
    text = name ++ "://".toList ++ rest ∧ ∀ character ∈ name, isSchemeChar character = true := by
  unfold splitScheme at split
  split at split
  · next spanned =>
      split at split <;> cases split
      rcases span_eq_append spanned with ⟨whole, schemeChars⟩
      exact ⟨by simp [whole], schemeChars⟩
  · cases split

theorem splitScheme_eq_none {text host : List Char} (split : splitScheme text = .none host) :
    host = text := by
  unfold splitScheme at split
  split at split
  · split at split <;> cases split
  · cases split
    rfl

theorem startsQuery_of_endsAuthority {character : Char} (inside : endsAuthority character = false) :
    startsQuery character = false ∧ (character == '/') = false := by
  simp_all [endsAuthority, startsQuery]

theorem startsQuery_of_isSchemeChar {character : Char} (inside : isSchemeChar character = true) :
    startsQuery character = false := by
  rw [← Bool.not_eq_true]
  intro starts
  have isOne : character = '?' ∨ character = '#' := by simpa [startsQuery] using starts
  rcases isOne with rfl | rfl
  · cases inside
  · cases inside

theorem cut_ofHost? {url : String} {location : Location}
    (found : ofHost? (lowerScheme url.toList) = some location) : Cut url location [] := by
  unfold ofHost? at found
  split at found
  · next usable =>
      cases found
      simp only [Bool.and_eq_true, Bool.not_eq_true', List.any_eq_false, Bool.not_eq_true] at usable
      refine ⟨by simp [origin], rfl, ?_, ?_⟩
      · intro character member
        rw [origin, String.toList_ofList] at member
        exact (startsQuery_of_endsAuthority (usable.2 character member)).1
      · intro last member
        rw [origin, String.toList_ofList] at member
        exact (startsQuery_of_endsAuthority (usable.2 last (List.mem_of_getLast? member))).2
  · cases found

theorem cut_of_scheme {url : String} {name rest authority path : List Char}
    (split : splitScheme (lowerScheme url.toList) = .scheme name rest)
    (spanned : rest.span (!endsAuthority ·) = (authority, path)) (named : authority ≠ []) :
    Cut url ⟨some (.ofList name), .ofList authority, .ofList (path.takeWhile (· != '#'))⟩ path := by
  rcases splitScheme_eq_scheme split with ⟨whole, schemeChars⟩
  rcases span_eq_append spanned with ⟨rfl, inside⟩
  simp only [Bool.not_eq_true'] at inside
  refine ⟨by simp [origin, whole], String.toList_ofList, ?_, ?_⟩
  · intro character member
    simp only [origin, String.toList_append, String.toList_ofList, List.mem_append] at member
    rcases member with (schemeChar | separator) | inAuthority
    · exact startsQuery_of_isSchemeChar (schemeChars character schemeChar)
    · have isOne : character = ':' ∨ character = '/' := by simpa using separator
      rcases isOne with rfl | rfl
      · rfl
      · rfl
    · exact (startsQuery_of_endsAuthority (inside character inAuthority)).1
  · intro last member
    simp only [origin, String.toList_append, String.toList_ofList,
      List.getLast?_append_of_ne_nil _ named] at member
    exact (startsQuery_of_endsAuthority (inside last (List.mem_of_getLast? member))).2

theorem exists_cut {url : String} {location : Location} (parsed : parse? url = some location) :
    ∃ rest, Cut url location rest := by
  simp only [parse?] at parsed
  split at parsed
  · cases parsed
  split at parsed
  · next star =>
      cases parsed
      exact ⟨['*'], star, rfl, nofun, nofun⟩
  split at parsed
  · split at parsed
    · cases parsed
      exact ⟨lowerScheme url.toList, rfl, String.toList_ofList, nofun, nofun⟩
    · cases parsed
  split at parsed
  · cases parsed
  · next host split =>
      cases splitScheme_eq_none split
      exact ⟨[], cut_ofHost? parsed⟩
  · next name rest split =>
      split at parsed
      · next usable =>
          cases parsed
          simp only [Bool.and_eq_true, Bool.not_eq_true', List.isEmpty_eq_false_iff] at usable
          exact ⟨_, cut_of_scheme split rfl usable.1.2⟩
      · cases parsed

/-- A request to a location has a URL that continues the one the location was read from. -/
theorem url_of_parse? {url : String} {location : Location} (parsed : parse? url = some location)
    (path : String) : location.url path = stem url ++ path := by
  rcases exists_cut parsed with ⟨_, cut⟩
  exact cut.url_eq path

end Tenancy.Location
