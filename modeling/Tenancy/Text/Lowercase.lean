import Tenancy.Text.CaseTable

/-! Lower case over all of Unicode. One capital has no fixed lower case: the sigma is written one
way inside a word and another way at its end. -/

namespace Tenancy.Text

def isCased (character : Char) : Bool :=
  CaseTable.cased.containsChar character

def isCaseIgnorable (character : Char) : Bool :=
  CaseTable.ignorable.containsChar character

/-- The next character that case rules do not look through is cased. -/
def meetsCased (text : List Char) : Bool :=
  match text.dropWhile isCaseIgnorable with
  | [] => false
  | character :: _ => isCased character

/-- The capital I with a dot becomes two characters; every other capital becomes one. -/
def lowerChar (character : Char) : List Char :=
  if character.toNat < 0x80 then [character.toLower]
  else if character.toNat == 0x130 then ['i', Char.ofNat 0x307]
  else
    match CaseTable.runs.find? (·.covers character.toNat) with
    | some run => [run.lower character.toNat]
    | none => [character]

def capitalSigma : Char := 'Σ'

/-- A sigma ends a word when a cased character stands before it and none stands after it. -/
def lowerSigma (before after : List Char) : Char :=
  if meetsCased before && !meetsCased after then 'ς' else 'σ'

/-- The characters already passed are kept in reverse, nearest first. -/
def lowerFrom (before : List Char) : List Char → List Char
  | [] => []
  | character :: rest =>
      let lowered :=
        if character == capitalSigma then [lowerSigma before rest] else lowerChar character
      lowered ++ lowerFrom (character :: before) rest

def lowercase (text : List Char) : List Char :=
  lowerFrom [] text

/-- The term occurs in the text at some position. -/
def occursIn (term : List Char) : List Char → Bool
  | [] => term.isEmpty
  | character :: rest => term.isPrefixOf (character :: rest) || occursIn term rest

theorem occursIn_iff (term text : List Char) :
    occursIn term text = true ↔ ∃ before after, text = before ++ term ++ after := by
  induction text with
  | nil => simp [occursIn]
  | cons character rest induction =>
      rw [occursIn, Bool.or_eq_true, induction, List.isPrefixOf_iff_prefix]
      constructor
      · rintro (⟨after, equal⟩ | ⟨before, after, equal⟩)
        · exact ⟨[], after, by simpa using equal.symm⟩
        · exact ⟨character :: before, after, by simp [equal]⟩
      · rintro ⟨before, after, equal⟩
        cases before with
        | nil => exact .inl ⟨after, by simpa using equal.symm⟩
        | cons head before =>
            simp only [List.cons_append, List.cons.injEq] at equal
            exact .inr ⟨before, after, equal.2⟩

end Tenancy.Text
