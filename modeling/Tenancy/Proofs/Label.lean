import Mathlib.Computability.RegularExpressions
import Mathlib.Data.List.TakeWhile
import Tenancy.Proofs.Validation

/-! The names that pass the check are the labels of RFC 1123 in lower case, and a name that does not
pass is told the first thing wrong with it. -/

namespace Tenancy

open Text

/-! ## Blank texts -/

namespace Text

theorem forall_isBlank_trimStart (text : List Char) :
    (∀ character ∈ trimStart text, isBlank character = true) ↔
      ∀ character ∈ text, isBlank character = true := by
  constructor
  · intro rest character member
    rw [← List.takeWhile_append_dropWhile (p := isBlank) (l := text), List.mem_append] at member
    rcases member with front | back
    · exact List.mem_takeWhile_imp front
    · exact rest character back
  · intro all character member
    exact all character ((List.dropWhile_sublist isBlank).mem member)

/-- Nothing is left of a blank text once it is trimmed. -/
theorem blank_iff_trim (text : String) : blank text = true ↔ trim text.toList = [] := by
  rw [blank, trim, trimEnd, List.reverse_eq_nil_iff, List.dropWhile_eq_nil_iff, List.all_eq_true]
  simp only [List.mem_reverse]
  exact (forall_isBlank_trimStart text.toList).symm

theorem one_le_byteLength_iff (text : String) : 1 ≤ byteLength text ↔ text.toList ≠ [] := by
  rw [byteLength]
  cases text.toList with
  | nil => simp
  | cons first rest =>
      have size := first.utf8Size_pos
      simp only [List.map_cons, List.foldr_cons]
      exact ⟨fun _ => List.cons_ne_nil first rest, fun _ => by omega⟩

end Text

namespace Name

variable {name : String} {text : List Char}

/-! ## The pattern -/

section

open RegularExpression

def anyOf (characters : List Char) : RegularExpression Char :=
  (characters.map char).foldr (· + ·) 0

def letters : List Char := "abcdefghijklmnopqrstuvwxyz0123456789".toList

/-- One of the letters, and after it perhaps a run of letters and hyphens with a letter at its
end: `[a-z0-9]([a-z0-9-]*[a-z0-9])?`. -/
def pattern : RegularExpression Char :=
  anyOf letters * (1 + star (anyOf (letters ++ ['-'])) * anyOf letters)

theorem mem_anyOf {characters : List Char} :
    text ∈ (anyOf characters).matches' ↔ ∃ character ∈ characters, text = [character] := by
  induction characters with
  | nil => simp [anyOf, Language.notMem_zero]
  | cons first rest induction =>
      have split : (anyOf (first :: rest)).matches' = {[first]} + (anyOf rest).matches' := rfl
      rw [split, Language.mem_add, induction, List.exists_mem_cons_iff]
      rfl

theorem mem_star_anyOf {characters : List Char} :
    text ∈ (star (anyOf characters)).matches' ↔ ∀ character ∈ text, character ∈ characters := by
  rw [matches'_star, Language.mem_kstar]
  constructor
  · rintro ⟨words, rfl, single⟩ character member
    rcases List.mem_flatten.mp member with ⟨word, among, inside⟩
    rcases mem_anyOf.mp (single word among) with ⟨letter, known, rfl⟩
    exact List.mem_singleton.mp inside ▸ known
  · intro known
    refine ⟨text.map fun character => [character], ?_, ?_⟩
    · rw [List.flatten_eq_flatMap, List.flatMap_map]
      simp
    · intro word member
      rcases List.mem_map.mp member with ⟨character, inside, rfl⟩
      exact mem_anyOf.mpr ⟨character, known character inside, rfl⟩

end

/-! ## Characters -/

theorem isOuter_iff_mem {character : Char} : isOuter character = true ↔ character ∈ letters := by
  constructor
  · intro outer
    have among : ∀ character, isInner character = true → isOuter character = true →
        character ∈ letters := forall_isInner (by decide +kernel)
    exact among character (isInner_of_isOuter outer) outer
  · have outer : letters.all isOuter = true := by decide +kernel
    exact List.all_eq_true.mp outer character

theorem isInner_iff_mem {character : Char} :
    isInner character = true ↔ character ∈ letters ++ ['-'] := by
  rw [isInner, Bool.or_eq_true, beq_iff_eq, isOuter_iff_mem, List.mem_append, List.mem_singleton]

theorem isInner_iff {character : Char} :
    isInner character = true ↔ ('a' ≤ character ∧ character ≤ 'z') ∨
      ('0' ≤ character ∧ character ≤ '9') ∨ character = '-' := by
  simp only [isInner, isOuter, Bool.or_eq_true, Bool.and_eq_true, decide_eq_true_eq, beq_iff_eq,
    or_assoc]

/-- The hyphen is the one inner character that is no outer one. -/
theorem isOuter_iff {character : Char} :
    isOuter character = true ↔ isInner character = true ∧ character ≠ '-' := by
  rw [isInner, Bool.or_eq_true, beq_iff_eq]
  constructor
  · intro outer
    refine ⟨.inl outer, ?_⟩
    rintro rfl
    exact absurd outer (by decide)
  · rintro ⟨inner, different⟩
    exact inner.resolve_right different

/-! ## The check -/

theorem endsOuter_concat (front : List Char) (last : Char) :
    endsOuter (front ++ [last]) = true ↔
      (∀ character ∈ front, isInner character = true) ∧ isOuter last = true := by
  induction front with
  | nil => simp [endsOuter]
  | cons first front induction =>
      have more : endsOuter (first :: (front ++ [last])) =
          (isInner first && endsOuter (front ++ [last])) := by
        rw [endsOuter]
        exact fun empty => absurd empty (by simp)
      rw [List.cons_append, more, Bool.and_eq_true, induction, List.forall_mem_cons, and_assoc]

theorem mem_pattern :
    text ∈ pattern.matches' ↔ ∃ first rest, text = first :: rest ∧ first ∈ letters ∧
      (rest = [] ∨ ∃ front last, rest = front ++ [last] ∧ last ∈ letters ∧
        ∀ character ∈ front, character ∈ letters ++ ['-']) := by
  have shape : pattern.matches' = (anyOf letters).matches' *
      (1 + (RegularExpression.star (anyOf (letters ++ ['-']))).matches' *
        (anyOf letters).matches') := rfl
  simp only [shape, Language.mem_mul, Language.mem_add, Language.mem_one, mem_anyOf,
    mem_star_anyOf]
  constructor
  · rintro ⟨_, ⟨first, known, rfl⟩, rest, alone | ⟨front, all, _, ⟨last, ends, rfl⟩, rfl⟩, rfl⟩
    · exact ⟨first, rest, rfl, known, .inl alone⟩
    · exact ⟨first, front ++ [last], rfl, known, .inr ⟨front, last, rfl, ends, all⟩⟩
  · rintro ⟨first, rest, rfl, known, alone | ⟨front, last, rfl, ends, all⟩⟩
    · exact ⟨_, ⟨first, known, rfl⟩, rest, .inl alone, rfl⟩
    · exact ⟨_, ⟨first, known, rfl⟩, _, .inr ⟨front, all, _, ⟨last, ends, rfl⟩, rfl⟩, rfl⟩

/-- The check of the characters is a match of the whole text with the pattern. -/
theorem fitsPattern_iff_mem : fitsPattern text = true ↔ text ∈ pattern.matches' := by
  rw [mem_pattern]
  cases text with
  | nil => simp [fitsPattern]
  | cons first rest =>
      rw [fitsPattern, Bool.and_eq_true, Bool.or_eq_true, List.isEmpty_iff, isOuter_iff_mem]
      rcases List.eq_nil_or_concat' rest with rfl | ⟨front, last, rfl⟩
      · simp
      · rw [endsOuter_concat, isOuter_iff_mem]
        simp only [isInner_iff_mem]
        constructor
        · rintro ⟨known, empty | ⟨all, ends⟩⟩
          · exact absurd empty (by simp)
          · exact ⟨first, _, rfl, known, .inr ⟨front, last, rfl, ends, all⟩⟩
        · rintro ⟨other, tail, split, known, shape⟩
          obtain ⟨rfl, rfl⟩ := List.cons.inj split
          refine ⟨known, .inr ?_⟩
          rcases shape with empty | ⟨front', last', same, ends, all⟩
          · exact absurd empty (by simp)
          · obtain ⟨rfl, rfl⟩ := List.append_singleton_inj.mp same
            exact ⟨all, ends⟩

/-- A text fits the pattern when nothing but its characters and its two ends is in the way. -/
theorem fitsPattern_iff :
    fitsPattern text = true ↔ text ≠ [] ∧ (∀ character ∈ text, isInner character = true) ∧
      text.head? ≠ some '-' ∧ text.getLast? ≠ some '-' := by
  cases text with
  | nil => simp [fitsPattern]
  | cons first rest =>
      rw [fitsPattern, Bool.and_eq_true, Bool.or_eq_true, List.isEmpty_iff, List.forall_mem_cons,
        isOuter_iff]
      rcases List.eq_nil_or_concat' rest with rfl | ⟨front, last, rfl⟩
      · simp
      · have ends : (first :: (front ++ [last])).getLast? = some last :=
          List.getLast?_concat (l := first :: front)
        rw [endsOuter_concat, ends, List.forall_mem_append, List.forall_mem_singleton, isOuter_iff]
        simp only [List.head?_cons]
        grind

theorem isLabel_iff :
    IsLabel name ↔ byteLength name ≤ maxNameLength ∧ fitsPattern name.toList = true := by
  simp only [fitsPattern_iff, isInner_iff, ← one_le_byteLength_iff]
  constructor
  · intro label
    exact ⟨label.short, label.nonempty, label.characters, label.first, label.last⟩
  · rintro ⟨short, nonempty, characters, first, last⟩
    exact ⟨nonempty, short, characters, first, last⟩

/-! ## What is found -/

theorem check_eq (name : String) :
    check name =
      if blank name then .error (.blank "namespace")
      else if maxNameLength < byteLength name then .error .nameTooLong
      else if fitsPattern name.toList then .ok ()
      else .error .nameCharacters := by
  rw [check, requireNonBlank]
  cases blank name <;> rfl

/-- A text with an inner character in it is not blank. -/
theorem not_blank_of_fitsPattern (fits : fitsPattern name.toList = true) : blank name = false := by
  have plain : ∀ character, isInner character = true → isBlank character = false :=
    forall_isInner (by decide)
  rcases fitsPattern_iff.mp fits with ⟨nonempty, inner, -, -⟩
  rcases List.exists_mem_of_ne_nil _ nonempty with ⟨character, member⟩
  rw [blank, List.all_eq_false]
  exact ⟨character, member, by simp [plain character (inner character member)]⟩

theorem check_eq_ok_iff :
    check name = .ok () ↔ byteLength name ≤ maxNameLength ∧ fitsPattern name.toList = true := by
  rw [check_eq]
  constructor
  · intro accepted
    grind
  · rintro ⟨short, fits⟩
    simp [not_blank_of_fitsPattern fits, Nat.not_lt.mpr short, fits]

theorem fault_of_check {fault : ValidationFault} (refused : check name = .error fault) :
    (blank name = true ∧ fault = .blank "namespace") ∨
    (blank name = false ∧ maxNameLength < byteLength name ∧ fault = .nameTooLong) ∨
    (blank name = false ∧ byteLength name ≤ maxNameLength ∧ fault = .nameCharacters) := by
  rw [check_eq] at refused
  by_cases empty : blank name = true
  · rw [if_pos empty, Except.error.injEq] at refused
    exact .inl ⟨empty, refused.symm⟩
  rw [if_neg empty] at refused
  rw [Bool.not_eq_true] at empty
  by_cases long : maxNameLength < byteLength name
  · rw [if_pos long, Except.error.injEq] at refused
    exact .inr (.inl ⟨empty, long, refused.symm⟩)
  · grind

/-- A name is accepted when it is a label, which is when it is short and all of it matches the
pattern. One that is refused is blank, or too long, or has characters that do not match, and is told
the first of these. -/
theorem labels_are_accepted (name : String) :
    (check name = .ok () ↔ IsLabel name) ∧
    (check name = .ok () ↔ byteLength name ≤ 63 ∧ name.toList ∈ pattern.matches') ∧
    (check name = .ok () → ∀ character ∈ name.toList, character ≠ '\n' ∧
      isBlank character = false ∧ character.isUpper = false ∧ character.toNat < 128) ∧
    ∀ fault, check name = .error fault →
      (fault.message = "namespace cannot be empty" ↔ trim name.toList = []) ∧
      (fault.message = "namespace too long (max 63 characters)" ↔
        trim name.toList ≠ [] ∧ 63 < byteLength name) ∧
      (fault.message = "namespace must consist of lower case alphanumeric characters or '-', " ++
          "and must start and end with an alphanumeric character" ↔
        trim name.toList ≠ [] ∧ byteLength name ≤ 63) := by
  refine ⟨?_, ?_, ?_, ?_⟩
  · rw [check_eq_ok_iff, isLabel_iff]
  · rw [check_eq_ok_iff, fitsPattern_iff_mem, maxNameLength]
  · intro accepted character member
    have plain : ∀ character, isInner character = true → character ≠ '\n' ∧
        isBlank character = false ∧ character.isUpper = false ∧ character.toNat < 128 :=
      forall_isInner (by decide)
    exact plain character (isInner_of_check accepted character member)
  · intro fault refused
    have blankText : (ValidationFault.blank "namespace").message = "namespace cannot be empty" := by
      decide +kernel
    have longText :
        ValidationFault.nameTooLong.message = "namespace too long (max 63 characters)" := by
      decide +kernel
    have charactersText : ValidationFault.nameCharacters.message =
        "namespace must consist of lower case alphanumeric characters or '-', " ++
          "and must start and end with an alphanumeric character" := by
      decide +kernel
    simp only [ne_eq, ← blank_iff_trim]
    rcases fault_of_check refused with
      ⟨empty, rfl⟩ | ⟨filled, tooLong, rfl⟩ | ⟨filled, short, rfl⟩
    · simp [blankText, empty]
    · rw [maxNameLength] at tooLong
      simp [longText, filled, tooLong]
    · rw [maxNameLength] at short
      simp [charactersText, filled, short]

/-- A line break after a label is not overlooked, and an empty line is no name at all. -/
theorem line_break_is_refused :
    check "team-x" = .ok () ∧ IsLabel "team-x" ∧ '\n' ∉ "team-x".toList ∧
      check "team-x\n" = .error .nameCharacters ∧ ¬IsLabel "team-x\n" ∧
      check "\n" = .error (.blank "namespace") ∧ trim "\n".toList = [] := by
  have accepted : check "team-x" = .ok () := by decide +kernel
  have refused : check "team-x\n" = .error .nameCharacters := by decide +kernel
  have empty : check "\n" = .error (.blank "namespace") := by decide +kernel
  refine ⟨accepted, (labels_are_accepted "team-x").1.mp accepted, ?_, refused, ?_, empty, ?_⟩
  · intro member
    exact ((labels_are_accepted "team-x").2.2.1 accepted '\n' member).1 rfl
  · intro label
    have both := refused.symm.trans ((labels_are_accepted "team-x\n").1.mpr label)
    cases both
  · exact ((labels_are_accepted "\n").2.2.2 _ empty).1.mp (by decide +kernel)

end Name

end Tenancy
