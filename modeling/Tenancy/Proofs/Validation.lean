import Tenancy.Validation

/-! A name that passes the check is made of inner characters, and of at least one. -/

namespace Tenancy.Name

variable {name : String} {text : List Char}

theorem isInner_of_isOuter {character : Char} (outer : isOuter character = true) :
    isInner character = true := by
  rw [isInner, outer, Bool.true_or]

theorem isInner_of_endsOuter (ends : endsOuter text = true) :
    ∀ character ∈ text, isInner character = true := by
  fun_induction endsOuter text with
  | case1 => cases ends
  | case2 last =>
      intro character member
      rw [List.mem_singleton.mp member]
      exact isInner_of_isOuter ends
  | case3 first rest _ induction =>
      rw [Bool.and_eq_true] at ends
      intro character member
      rcases List.mem_cons.mp member with rfl | member
      · exact ends.1
      · exact induction ends.2 character member

theorem isInner_of_fitsPattern (fits : fitsPattern text = true) :
    ∀ character ∈ text, isInner character = true := by
  cases text with
  | nil => cases fits
  | cons first rest =>
      rw [fitsPattern, Bool.and_eq_true, Bool.or_eq_true] at fits
      intro character member
      rcases List.mem_cons.mp member with rfl | member
      · exact isInner_of_isOuter fits.1
      · rcases fits.2 with alone | ends
        · rw [List.isEmpty_iff.mp alone] at member
          cases member
        · exact isInner_of_endsOuter ends character member

theorem fitsPattern_of_check (valid : check name = .ok ()) : fitsPattern name.toList = true := by
  unfold check at valid
  cases filled : requireNonBlank "namespace" name with
  | error fault => simp [filled] at valid
  | ok _ =>
      simp only [filled] at valid
      by_cases long : maxNameLength < Text.byteLength name
      · rw [if_pos long] at valid
        cases valid
      · rw [if_neg long] at valid
        by_cases fits : fitsPattern name.toList = true
        · exact fits
        · rw [if_neg fits] at valid
          cases valid

theorem isInner_of_check (valid : check name = .ok ()) :
    ∀ character ∈ name.toList, isInner character = true :=
  isInner_of_fitsPattern (fitsPattern_of_check valid)

theorem ne_empty_of_check (valid : check name = .ok ()) : name ≠ "" := by
  intro empty
  subst name
  cases fitsPattern_of_check valid

/-- All inner characters are among the first, so it is enough to look at these. -/
theorem forall_isInner {holds : Char → Prop}
    (looked : ∀ code : Fin 128, isInner (Char.ofNat code) = true → holds (Char.ofNat code)) :
    ∀ character, isInner character = true → holds character := by
  intro character inner
  have small : character.toNat < 128 := by
    simp only [isInner, isOuter, Bool.or_eq_true, Bool.and_eq_true, decide_eq_true_eq,
      beq_iff_eq, Char.le_def, UInt32.le_iff_toNat_le] at inner
    rcases inner with (letter | digit) | rfl
    · exact Nat.lt_of_le_of_lt letter.2 (by decide)
    · exact Nat.lt_of_le_of_lt digit.2 (by decide)
    · decide
  rw [← Char.ofNat_toNat character] at inner ⊢
  exact looked ⟨character.toNat, small⟩ inner

end Tenancy.Name
