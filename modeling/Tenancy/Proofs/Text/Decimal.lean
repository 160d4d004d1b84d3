import Tenancy.Proofs.Outcome
import Tenancy.Text.Decimal

/-! Whole numbers come back from their decimal text, and what is read as one is a numeral in its
range. -/

namespace Tenancy.Text.Decimal

/-! ## Digits -/

theorem ne_of_isDigit {character other : Char} (digit : character.isDigit = true)
    (sign : other.isDigit = false) : character ≠ other := by
  rintro rfl
  rw [digit] at sign
  cases sign

theorem digit?_of_isDigit {character : Char} (digit : character.isDigit = true) :
    digit? character = some (character.toNat - '0'.toNat) := by
  apply if_pos
  simpa [Char.isDigit, Char.le_def] using digit

theorem isDigit_of_mem_toDigits {value : Nat} {character : Char}
    (member : character ∈ Nat.toDigits 10 value) : character.isDigit = true :=
  Nat.isDigit_of_mem_toDigits (by decide) (by decide) member

/-- Only grows with the digits read. -/
theorem le_ofDigitChars (digits : List Char) (value : Nat) :
    value ≤ Nat.ofDigitChars 10 digits value := by
  induction digits generalizing value with
  | nil => exact Nat.le_of_eq Nat.ofDigitChars_nil.symm
  | cons character digits grows =>
      rw [Nat.ofDigitChars_cons]
      exact Nat.le_trans (by omega) (grows _)

/-- Reading stays within the limit at each digit where it ends within it. -/
theorem readMagnitude_digits {limit value : Nat} {excess : DecimalFault} {digits : List Char}
    (all : ∀ character ∈ digits, character.isDigit = true)
    (within : Nat.ofDigitChars 10 digits value ≤ limit) :
    readMagnitude limit excess value digits = .ok (Nat.ofDigitChars 10 digits value) := by
  induction digits generalizing value with
  | nil => rw [readMagnitude, Nat.ofDigitChars_nil]
  | cons character digits reads =>
      rw [Nat.ofDigitChars_cons] at within ⊢
      have digit := digit?_of_isDigit (all character List.mem_cons_self)
      have small := Nat.le_trans (le_ofDigitChars digits _) within
      rw [readMagnitude, digit]
      simp only [Nat.mul_comm value 10]
      rw [if_neg (Nat.not_lt.mpr small)]
      exact reads (fun letter member => all letter (List.mem_cons_of_mem _ member)) within

theorem readMagnitude_toDigits {limit value : Nat} (within : value ≤ limit)
    (excess : DecimalFault) : readMagnitude limit excess 0 (Nat.toDigits 10 value) = .ok value := by
  have reads := @readMagnitude_digits limit 0 excess (Nat.toDigits 10 value)
    fun _ => isDigit_of_mem_toDigits
  rw [Nat.ofDigitChars_ten_toDigits] at reads
  exact reads within

theorem exists_toDigits (value : Nat) :
    ∃ first rest, Nat.toDigits 10 value = first :: rest ∧ first.isDigit = true := by
  cases written : Nat.toDigits 10 value with
  | nil => exact absurd written Nat.toDigits_ne_nil
  | cons first rest =>
      exact ⟨first, rest, rfl, isDigit_of_mem_toDigits (written ▸ List.mem_cons_self)⟩

theorem head?_toDigits {value : Nat} (positive : 0 < value) :
    (Nat.toDigits 10 value).head? ≠ some '0' := by
  induction value using Nat.strongRecOn with
  | ind value shorter =>
      by_cases small : value < 10
      · rw [Nat.toDigits_of_lt_base small, List.head?_cons, ne_eq, Option.some.injEq,
          Nat.digitChar_eq_zero]
        omega
      · have front := shorter (value / 10) (by omega) (by omega)
        rcases exists_toDigits (value / 10) with ⟨first, rest, written, -⟩
        rw [written] at front
        rw [Nat.toDigits_of_base_le (by decide) (Nat.le_of_not_lt small), written]
        exact front

theorem foldl_toDigits (value : Nat) :
    (Nat.toDigits 10 value).foldl (fun total digit => total * 10 + (digit.toNat - '0'.toNat)) 0 =
      value := by
  simp only [Nat.mul_comm _ 10]
  rw [← Nat.ofDigitChars_eq_foldl, Nat.ofDigitChars_ten_toDigits]

/-! ## Numbers -/

theorem read_unsigned {first : Char} {rest : List Char} (digit : first.isDigit = true) :
    read low high (first :: rest) =
      (readMagnitude high.toNat .tooLarge 0 (first :: rest)).map Int.ofNat := by
  unfold read
  split
  · contradiction
  · next equal => exact absurd (List.cons.inj equal).1 (ne_of_isDigit digit rfl)
  · next equal => exact absurd (List.cons.inj equal).1 (ne_of_isDigit digit rfl)
  · rfl

theorem read_write {low high value : Int} (least : low ≤ value) (most : value ≤ high) :
    read low high (write value) = .ok value := by
  cases value with
  | ofNat magnitude =>
      have within : magnitude ≤ high.toNat := by
        rw [Int.ofNat_eq_natCast] at most
        omega
      have reads := readMagnitude_toDigits within .tooLarge
      rcases exists_toDigits magnitude with ⟨first, rest, written, digit⟩
      rw [write, written, read_unsigned digit, ← written, reads]
      rfl
  | negSucc magnitude =>
      have negative : low < 0 := Int.lt_of_le_of_lt least (Int.negSucc_lt_zero magnitude)
      have within : magnitude + 1 ≤ (-low).toNat := by
        rw [Int.negSucc_eq] at least
        omega
      have reads := readMagnitude_toDigits within .tooSmall
      rcases exists_toDigits (magnitude + 1) with ⟨first, rest, written, -⟩
      rw [written] at reads
      simp only [write, written, read, negative, if_true, readDigits, reads]
      rfl

/-! ## Numerals

What is read is what is written as a number within the bounds, and nothing else is. -/

theorem digit?_eq_some_iff {character : Char} {digit : Nat} :
    digit? character = some digit ↔
      character.isDigit = true ∧ digit = character.toNat - '0'.toNat := by
  constructor
  · intro found
    unfold digit? at found
    split at found
    · next inside =>
        refine ⟨?_, (Option.some.inj found).symm⟩
        simpa [Char.isDigit, Char.le_def] using inside
    · cases found
  · rintro ⟨digit, rfl⟩
    exact digit?_of_isDigit digit

theorem readMagnitude_eq_ok_iff {limit start value : Nat} {excess : DecimalFault}
    {digits : List Char} (within : start ≤ limit) :
    readMagnitude limit excess start digits = .ok value ↔
      (∀ character ∈ digits, character.isDigit = true) ∧
        value = Nat.ofDigitChars 10 digits start ∧ value ≤ limit := by
  constructor
  · intro reads
    induction digits generalizing start with
    | nil =>
        cases reads
        exact ⟨fun _ member => absurd member List.not_mem_nil, Nat.ofDigitChars_nil.symm, within⟩
    | cons character digits induction =>
        rw [readMagnitude] at reads
        cases found : digit? character with
        | none =>
            rw [found] at reads
            cases reads
        | some digit =>
            rcases digit?_eq_some_iff.mp found with ⟨isDigit, rfl⟩
            simp only [found] at reads
            split at reads
            · cases reads
            · next small =>
                rcases induction (Nat.not_lt.mp small) reads with ⟨all, same, most⟩
                refine ⟨List.forall_mem_cons.mpr ⟨isDigit, all⟩, ?_, most⟩
                rw [same, Nat.ofDigitChars_cons, Nat.mul_comm]
  · rintro ⟨all, rfl, most⟩
    exact readMagnitude_digits all most

/-- Digits, perhaps after a sign. A minus sign stands before signed numbers only. -/
inductive Numeral (signed : Bool) : List Char → Int → Prop
  | bare {digits : List Char} (some : digits ≠ [])
      (all : ∀ character ∈ digits, character.isDigit = true) :
      Numeral signed digits (Nat.ofDigitChars 10 digits 0)
  | plus {digits : List Char} (some : digits ≠ [])
      (all : ∀ character ∈ digits, character.isDigit = true) :
      Numeral signed ('+' :: digits) (Nat.ofDigitChars 10 digits 0)
  | minus {digits : List Char} (negative : signed = true) (some : digits ≠ [])
      (all : ∀ character ∈ digits, character.isDigit = true) :
      Numeral signed ('-' :: digits) (-Nat.ofDigitChars 10 digits 0)

theorem readDigits_eq_ok_iff {limit value : Nat} {excess : DecimalFault} {digits : List Char} :
    readDigits limit excess digits = .ok value ↔
      digits ≠ [] ∧ (∀ character ∈ digits, character.isDigit = true) ∧
        value = Nat.ofDigitChars 10 digits 0 ∧ value ≤ limit := by
  cases digits with
  | nil => exact ⟨nofun, fun given => absurd rfl given.1⟩
  | cons character digits =>
      rw [readDigits, readMagnitude_eq_ok_iff (Nat.zero_le limit)]
      · exact ⟨fun given => ⟨nofun, given⟩, And.right⟩
      · nofun

theorem read_eq_ok_iff {low high value : Int} (nonpositive : low ≤ 0) (nonnegative : 0 ≤ high)
    {text : List Char} : read low high text = .ok value ↔
      Numeral (low < 0) text value ∧ low ≤ value ∧ value ≤ high := by
  unfold read
  split
  · constructor
    · nofun
    · rintro ⟨numeral, _⟩
      generalize same : ([] : List Char) = text at numeral
      cases numeral with
      | bare some => exact absurd same.symm some
      | plus | minus => cases same
  · next digits =>
      simp only [map_eq_ok, readDigits_eq_ok_iff, Int.ofNat_eq_natCast]
      constructor
      · rintro ⟨_, ⟨some, all, rfl, most⟩, rfl⟩
        exact ⟨.plus some all, by omega, by omega⟩
      · rintro ⟨numeral, least, most⟩
        cases numeral with
        | bare _ all => exact absurd (all '+' List.mem_cons_self) (by decide)
        | plus some all => exact ⟨_, ⟨some, all, rfl, by omega⟩, rfl⟩
  · next digits =>
      split
      · next negative =>
          simp only [map_eq_ok, bind_eq_ok, readDigits_eq_ok_iff]
          constructor
          · rintro ⟨_, ⟨_, ⟨some, all, rfl, most⟩, ⟨⟩⟩, rfl⟩
            exact ⟨.minus (decide_eq_true negative) some all, by omega, by omega⟩
          · rintro ⟨numeral, least, most⟩
            cases numeral with
            | bare _ all => exact absurd (all '-' List.mem_cons_self) (by decide)
            | minus _ some all => exact ⟨_, ⟨_, ⟨some, all, rfl, by omega⟩, rfl⟩, rfl⟩
      · next unsigned =>
          constructor
          · nofun
          · rintro ⟨numeral, _⟩
            cases numeral with
            | bare _ all => exact absurd (all '-' List.mem_cons_self) (by decide)
            | minus negative => exact absurd (of_decide_eq_true negative) unsigned
  · next digits unsigned notPlus notMinus =>
      simp only [map_eq_ok, readMagnitude_eq_ok_iff (Nat.zero_le high.toNat),
        Int.ofNat_eq_natCast]
      constructor
      · rintro ⟨_, ⟨all, rfl, most⟩, rfl⟩
        exact ⟨.bare unsigned all, by omega, by omega⟩
      · rintro ⟨numeral, least, most⟩
        cases numeral with
        | bare some all => exact ⟨_, ⟨all, rfl, by omega⟩, rfl⟩
        | plus => exact absurd rfl (notPlus _)
        | minus => exact absurd rfl (notMinus _)

/-- A word is read from a numeral without a minus sign that is not too large for it. -/
theorem read_word_eq_ok_iff {word : Type} {ofNat : Nat → word} {toNat : word → Nat} {limit : Nat}
    (toNat_ofNat : ∀ number ≤ limit, toNat (ofNat number) = number)
    (ofNat_toNat : ∀ value, ofNat (toNat value) = value) (bounded : ∀ value, toNat value ≤ limit)
    {text : List Char} {value : word} :
    ((read 0 limit text).map fun number => ofNat number.toNat) = .ok value ↔
      Numeral false text (toNat value) := by
  have least : (0 : Int) ≤ limit := by omega
  simp only [map_eq_ok, read_eq_ok_iff (Int.le_refl 0) least]
  constructor
  · rintro ⟨number, ⟨numeral, nonnegative, most⟩, rfl⟩
    rw [toNat_ofNat _ (by omega), Int.toNat_of_nonneg nonnegative]
    exact numeral
  · intro numeral
    have most := bounded value
    exact ⟨toNat value, ⟨numeral, by omega, by omega⟩, ofNat_toNat value⟩

end Decimal

theorem readInt64_decimal (value : Int64) : readInt64 (decimal value.toInt) = .ok value := by
  rw [readInt64, decimal, String.toList_ofList,
    Decimal.read_write value.minValue_le_toInt value.toInt_le, Except.map, Int64.ofInt_toInt]

theorem readUInt16_eq_ok_iff {text : String} {value : UInt16} :
    readUInt16 text = .ok value ↔ Decimal.Numeral false text.toList value.toNat :=
  Decimal.read_word_eq_ok_iff
    (fun _ most => UInt16.toNat_ofNat_of_lt' (Nat.lt_succ_of_le most))
    (fun _ => UInt16.ofNat_toNat) (fun value => Nat.le_of_lt_succ value.toNat_lt)

theorem readUInt32_eq_ok_iff {text : String} {value : UInt32} :
    readUInt32 text = .ok value ↔ Decimal.Numeral false text.toList value.toNat :=
  Decimal.read_word_eq_ok_iff
    (fun _ most => UInt32.toNat_ofNat_of_lt' (Nat.lt_succ_of_le most))
    (fun _ => UInt32.ofNat_toNat) (fun value => Nat.le_of_lt_succ value.toNat_lt)

theorem readUInt64_eq_ok_iff {text : String} {value : UInt64} :
    readUInt64 text = .ok value ↔ Decimal.Numeral false text.toList value.toNat :=
  Decimal.read_word_eq_ok_iff
    (fun _ most => UInt64.toNat_ofNat_of_lt' (Nat.lt_succ_of_le most))
    (fun _ => UInt64.ofNat_toNat) (fun value => Nat.le_of_lt_succ value.toNat_lt)

theorem readInt64_eq_ok_iff {text : String} {value : Int64} :
    readInt64 text = .ok value ↔ Decimal.Numeral true text.toList value.toInt := by
  have least : Int64.minValue.toInt ≤ 0 := by decide
  have most : 0 ≤ Int64.maxValue.toInt := by decide
  simp only [readInt64, map_eq_ok, Decimal.read_eq_ok_iff least most]
  constructor
  · rintro ⟨number, ⟨numeral, low, high⟩, rfl⟩
    rw [Int64.toInt_ofInt_of_le low (Int.lt_of_le_of_lt high (by decide))]
    exact numeral
  · intro numeral
    exact ⟨value.toInt, ⟨numeral, value.minValue_le_toInt, value.toInt_le⟩, Int64.ofInt_toInt value⟩

end Tenancy.Text
