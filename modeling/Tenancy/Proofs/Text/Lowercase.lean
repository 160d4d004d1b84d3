import Mathlib.Data.List.TakeWhile
import Tenancy.Proofs.Validation
import Tenancy.Text.Lowercase

/-! Texts that come to the same once they are trimmed and put in lower case: the case of ASCII letters
does not count, even where the lower case of a character goes by the characters around it, and
neither does white space at the ends. The characters of names are in lower case already. -/

namespace Tenancy.Text

variable {text front back : List Char}

/-! ## Trimming -/

theorem trimStart_append (blank : ∀ character ∈ front, isBlank character = true) :
    trimStart (front ++ text) = trimStart text := by
  have gone : front.dropWhile isBlank = [] := List.dropWhile_eq_nil_iff.mpr blank
  rw [trimStart, List.dropWhile_append, gone]
  rfl

theorem trimEnd_append (blank : ∀ character ∈ back, isBlank character = true) :
    trimEnd (text ++ back) = trimEnd text := by
  have gone : back.reverse.dropWhile isBlank = [] := by
    rw [List.dropWhile_eq_nil_iff]
    exact fun character member => blank character (List.mem_reverse.mp member)
  rw [trimEnd, List.reverse_append, List.dropWhile_append, gone]
  rfl

theorem trim_append (blankFront : ∀ character ∈ front, isBlank character = true)
    (blankBack : ∀ character ∈ back, isBlank character = true) :
    trim (front ++ text ++ back) = trim text := by
  rw [trim, List.append_assoc, trimStart_append blankFront, trim]
  by_cases nothing : (text.dropWhile isBlank).isEmpty = true
  · have empty : trimStart text = [] := List.isEmpty_iff.mp nothing
    have gone : trimStart (text ++ back) = [] := by
      rw [trimStart, List.dropWhile_append, if_pos nothing]
      exact List.dropWhile_eq_nil_iff.mpr blankBack
    rw [empty, gone]
  · have kept : trimStart (text ++ back) = trimStart text ++ back := by
      rw [trimStart, List.dropWhile_append, if_neg nothing, trimStart]
    rw [kept, trimEnd_append blankBack]

theorem trim_of_unblank (unblank : ∀ character ∈ text, isBlank character = false) :
    trim text = text := by
  have stays {text : List Char} (unblank : ∀ character ∈ text, isBlank character = false) :
      text.dropWhile isBlank = text := by
    cases text with
    | nil => rfl
    | cons first rest =>
        exact List.dropWhile_cons_of_neg (by simp [unblank first List.mem_cons_self])
  have backwards : ∀ character ∈ text.reverse, isBlank character = false :=
    fun character member => unblank character (List.mem_reverse.mp member)
  rw [trim, trimStart, stays unblank, trimEnd, stays backwards, List.reverse_reverse]

/-! ## ASCII letters -/

/-- Only the capitals among the ASCII letters have another lower case. -/
theorem toLower_cases (character : Char) :
    character.toLower = character ∨ ∃ letter : Fin 26, character = Char.ofNat (65 + letter) := by
  by_cases capital : character.val ≥ 'A'.val ∧ character.val ≤ 'Z'.val
  · right
    have first : 65 ≤ character.toNat := UInt32.le_iff_toNat_le.mp capital.1
    have last : character.toNat ≤ 90 := UInt32.le_iff_toNat_le.mp capital.2
    refine ⟨⟨character.toNat - 65, by omega⟩, ?_⟩
    rw [Nat.add_sub_cancel' first, Char.ofNat_toNat]
  · exact .inl (dif_neg capital)

/-- What does not tell the ASCII capitals from the small letters does not see `toLower`. -/
theorem apply_toLower (property : Char → α)
    (capitals : ∀ letter : Fin 26,
      property (Char.ofNat (65 + letter)).toLower = property (Char.ofNat (65 + letter)))
    (character : Char) : property character.toLower = property character := by
  rcases toLower_cases character with same | ⟨letter, rfl⟩
  · rw [same]
  · exact capitals letter

theorem isBlank_toLower (character : Char) : isBlank character.toLower = isBlank character :=
  apply_toLower isBlank (by decide) character

theorem isCased_toLower (character : Char) : isCased character.toLower = isCased character :=
  apply_toLower isCased (by decide) character

theorem isCaseIgnorable_toLower (character : Char) :
    isCaseIgnorable character.toLower = isCaseIgnorable character :=
  apply_toLower isCaseIgnorable (by decide) character

theorem beq_capitalSigma_toLower (character : Char) :
    (character.toLower == capitalSigma) = (character == capitalSigma) :=
  apply_toLower (· == capitalSigma) (by decide) character

theorem lowerChar_toLower (character : Char) :
    lowerChar character.toLower = lowerChar character :=
  apply_toLower lowerChar (by decide) character

theorem dropWhile_map_toLower {test : Char → Bool}
    (blind : ∀ character : Char, test character.toLower = test character) (text : List Char) :
    (text.map Char.toLower).dropWhile test = (text.dropWhile test).map Char.toLower := by
  rw [List.dropWhile_map]
  congr 2
  funext character
  exact blind character

theorem trim_map_toLower (text : List Char) :
    trim (text.map Char.toLower) = (trim text).map Char.toLower := by
  simp only [trim, trimEnd, trimStart, ← List.map_reverse, dropWhile_map_toLower isBlank_toLower]

/-! ## Lower case -/

theorem meetsCased_map_toLower (text : List Char) :
    meetsCased (text.map Char.toLower) = meetsCased text := by
  rw [meetsCased, meetsCased, dropWhile_map_toLower isCaseIgnorable_toLower]
  cases text.dropWhile isCaseIgnorable with
  | nil => rfl
  | cons character rest => exact isCased_toLower character

/-- A sigma looks around for cased characters, and a letter is one in either case. -/
theorem lowerFrom_map_toLower (before text : List Char) :
    lowerFrom (before.map Char.toLower) (text.map Char.toLower) = lowerFrom before text := by
  induction text generalizing before with
  | nil => rfl
  | cons character rest induction =>
      have later := induction (character :: before)
      rw [List.map_cons] at later ⊢
      simp only [lowerFrom, later, lowerSigma, meetsCased_map_toLower, beq_capitalSigma_toLower,
        lowerChar_toLower]

theorem lowercase_eq_of_map_toLower {other : List Char}
    (same : text.map Char.toLower = other.map Char.toLower) : lowercase text = lowercase other := by
  have left : lowercase (text.map Char.toLower) = lowercase text := lowerFrom_map_toLower [] text
  have right : lowercase (other.map Char.toLower) = lowercase other :=
    lowerFrom_map_toLower [] other
  rw [← left, ← right, same]

theorem lowercase_of_isInner (inner : ∀ character ∈ text, Name.isInner character = true) :
    lowercase text = text := by
  have small : ∀ character, Name.isInner character = true →
      (character == capitalSigma) = false ∧ lowerChar character = [character] :=
    Name.forall_isInner (by decide)
  have stays (before : List Char) : lowerFrom before text = text := by
    induction text generalizing before with
    | nil => rfl
    | cons character rest induction =>
        rcases small character (inner character List.mem_cons_self) with ⟨other, same⟩
        have restInner (character : Char) (member : character ∈ rest) :
            Name.isInner character = true :=
          inner character (List.mem_cons_of_mem _ member)
        simp only [lowerFrom, other, same, induction restInner, Bool.false_eq_true, if_false,
          List.cons_append, List.nil_append]
  exact stays []

/-- The kelvin sign is a capital of an ASCII letter, and no ASCII letter. -/
example : lowercase [Char.ofNat 0x212A] = ['k'] ∧ (Char.ofNat 0x212A).toLower ≠ 'k' := by decide

end Tenancy.Text
