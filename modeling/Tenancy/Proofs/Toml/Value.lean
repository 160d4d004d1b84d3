import Mathlib.Data.List.Basic
import Mathlib.Data.List.TakeDrop
import Tenancy.Proofs.Text.Decimal
import Tenancy.Toml.Document

/-! Values that are written on one line, without escapes, come back when they are read. -/

namespace Tenancy.Toml

open Tenancy.Text

/-! ## Strings -/

/-- A character that stands for itself in a string. -/
structure IsVerbatim (character : Char) : Prop where
  plain : isPlain character = true
  quote : character ≠ '"'
  backslash : character ≠ '\\'

instance (character : Char) : Decidable (IsVerbatim character) :=
  decidable_of_iff (isPlain character = true ∧ character ≠ '"' ∧ character ≠ '\\')
    ⟨fun ⟨plain, quote, backslash⟩ => ⟨plain, quote, backslash⟩,
      fun ⟨plain, quote, backslash⟩ => ⟨plain, quote, backslash⟩⟩

/-- A text is tested letter by letter, not for every character there is. -/
scoped instance decidableEach (characters : List Char) (holds : Char → Prop) [DecidablePred holds] :
    Decidable (∀ character ∈ characters, holds character) :=
  List.decidableBAll holds characters

theorem readBasic_verbatim {characters : List Char} (rest : List Char) {bound : Nat}
    (verbatim : ∀ character ∈ characters, IsVerbatim character)
    (enough : characters.length < bound) :
    readBasic bound (characters ++ '"' :: rest) = some (characters, rest) := by
  induction characters generalizing bound with
  | nil =>
      cases bound with
      | zero => cases enough
      | succ bound => rfl
  | cons character characters induction =>
      cases bound with
      | zero => cases enough
      | succ bound =>
          have first := verbatim character List.mem_cons_self
          have later (other : Char) (member : other ∈ characters) : IsVerbatim other :=
            verbatim other (List.mem_cons_of_mem character member)
          have reads := induction later (Nat.lt_of_succ_lt_succ enough)
          rw [List.cons_append, readBasic]
          · simp only [first.plain, reads, if_true, Option.bind_eq_bind, Option.bind_some]
          · exact fun equal => first.quote equal
          · exact fun equal => first.backslash equal

theorem readString_verbatim {characters rest : List Char}
    (verbatim : ∀ character ∈ characters, IsVerbatim character) (ends : rest.head? ≠ some '"') :
    readString ('"' :: (characters ++ '"' :: rest)) = some (.ofList characters, rest) := by
  have enough : characters.length < (characters ++ '"' :: rest).length + 1 := by
    rw [List.length_append]
    omega
  have reads := readBasic_verbatim rest verbatim enough
  -- A text that opens with three quotes would run over several lines.
  have opens (tail : List Char) : characters ++ '"' :: rest ≠ '"' :: '"' :: tail := by
    intro equal
    cases characters with
    | nil => exact ends (congrArg List.head? (List.cons.inj equal).2)
    | cons character characters =>
        exact (verbatim character List.mem_cons_self).quote (List.cons.inj equal).1
  unfold readString
  split
  · next equal => exact absurd (List.cons.inj equal).2 (opens _)
  · next equal =>
      cases equal
      rw [reads]
      rfl
  · next equal => cases equal
  · next equal => cases equal
  · next _ basic _ _ => exact (basic _ rfl).elim

/-! ## Numbers -/

theorem digitRun_append {digits : List Char} (all : ∀ digit ∈ digits, digit.isDigit = true)
    {stop : Char} (stops : stop.isDigit = false) (apart : stop ≠ '_') (rest : List Char) :
    digitRun Char.isDigit (digits ++ stop :: rest) = (digits, stop :: rest) := by
  induction digits with
  | nil =>
      rw [List.nil_append, digitRun, stops]
      · rfl
      · intro digit rest equal
        exact absurd equal apart
  | cons digit digits induction =>
      have isDigit := all digit List.mem_cons_self
      have reads := induction fun other member => all other (List.mem_cons_of_mem digit member)
      rw [List.cons_append, digitRun, isDigit, reads]
      · rfl
      · intro other rest equal
        exact absurd equal (Decimal.ne_of_isDigit isDigit rfl)

theorem hexDigit?_of_isDigit {digit : Char} (isDigit : digit.isDigit = true) :
    (hexDigit? digit).getD 0 = digit.toNat - '0'.toNat := by
  have bounds : '0' ≤ digit ∧ digit ≤ '9' := by
    simpa [Char.isDigit, Char.le_def] using isDigit
  simp [hexDigit?, bounds]

theorem naturalOf_digits {digits : List Char} (all : ∀ digit ∈ digits, digit.isDigit = true) :
    naturalOf 10 digits =
      digits.foldl (fun total digit => total * 10 + (digit.toNat - '0'.toNat)) 0 := by
  apply List.foldl_ext
  intro total digit member
  rw [hexDigit?_of_isDigit (all digit member)]

theorem naturalOf_toDigits (value : Nat) : naturalOf 10 (Nat.toDigits 10 value) = value := by
  rw [naturalOf_digits fun _ => Decimal.isDigit_of_mem_toDigits, Decimal.foldl_toDigits]

theorem readWhole_toDigits (value : Nat) {stop : Char} (stops : stop.isDigit = false)
    (apart : stop ≠ '_') (rest : List Char) :
    readWhole (Nat.toDigits 10 value ++ stop :: rest) =
      some (Nat.toDigits 10 value, stop :: rest) := by
  have all (digit : Char) (member : digit ∈ Nat.toDigits 10 value) : digit.isDigit = true :=
    Decimal.isDigit_of_mem_toDigits member
  have run := digitRun_append all stops apart rest
  rcases Nat.eq_zero_or_pos value with zero | positive
  · rw [zero, Nat.toDigits_zero]
    rfl
  · have front := Decimal.head?_toDigits positive
    rcases Decimal.exists_toDigits value with ⟨first, later, written, isDigit⟩
    rw [written] at run front ⊢
    rw [List.cons_append, readWhole]
    · rw [readDigits, isDigit, if_pos rfl, ← List.cons_append, run]
    · exact fun _ equal => front (congrArg some (List.cons.inj equal).1)

/-! A number is not taken for a date or a time: no mark of theirs stands behind its first digits. -/

theorem readMark_eq_none {mark : Char} {text : List Char} (different : text.head? ≠ some mark) :
    readMark mark text = none := by
  cases text with
  | nil => rfl
  | cons character rest =>
      have other : ¬(character == mark) = true := by simpa using different
      rw [readMark, if_neg other]

theorem no_mark_after_digits {digits : List Char} (all : ∀ digit ∈ digits, digit.isDigit = true)
    {stop mark : Char} (stops : stop.isDigit = false) (other : stop ≠ mark)
    (marks : mark.isDigit = false) (count : Nat) (rest : List Char) :
    ((readFixed count (digits ++ stop :: rest)).bind fun (_, rest) => readMark mark rest) =
      none := by
  by_cases short : count ≤ digits.length
  · have behind : ((digits ++ stop :: rest).drop count).head? ≠ some mark := by
      rw [List.drop_append_of_le_length short]
      cases left : digits.drop count with
      | nil => simpa using other
      | cons digit later =>
          have member : digit ∈ digits := List.mem_of_mem_drop (left ▸ List.mem_cons_self)
          simpa using Decimal.ne_of_isDigit (all digit member) marks
    rw [readFixed]
    split
    · exact readMark_eq_none behind
    · rfl
  · have taken : stop ∈ (digits ++ stop :: rest).take count := by
      rw [List.take_append, List.take_of_length_le (by omega)]
      apply List.mem_append_right
      rw [show count - digits.length = count - digits.length - 1 + 1 by omega, List.take_succ_cons]
      exact List.mem_cons_self
    have mixed : ((digits ++ stop :: rest).take count).all Char.isDigit = false := by
      rw [List.all_eq_false]
      exact ⟨stop, taken, by rw [stops]; exact Bool.false_ne_true⟩
    rw [readFixed, mixed, Bool.and_false]
    rfl

/-- And a sign is no digit. -/
theorem readFixed_minus (count : Nat) (rest : List Char) :
    readFixed (count + 1) ('-' :: rest) = none := by
  rw [readFixed, List.take_succ_cons, List.all_cons, show '-'.isDigit = false by decide,
    Bool.false_and, Bool.and_false]
  rfl

theorem readDecimal_of_readSign {text rest : List Char} {negative : Bool} {value : Nat}
    (sign : readSign text = (negative, Nat.toDigits 10 value ++ '\n' :: rest)) :
    readDecimal text =
      (int64? (if negative then -(value : Int) else value)).map (·, '\n' :: rest) := by
  have reads := @readWhole_toDigits value '\n' (by decide) (by decide) rest
  rcases Decimal.exists_toDigits value with ⟨first, later, written, isDigit⟩
  have noWord : (startsWith? "inf" (Nat.toDigits 10 value ++ '\n' :: rest)).or
      (startsWith? "nan" (Nat.toDigits 10 value ++ '\n' :: rest)) = none := by
    have infinite : 'i' ≠ first := (Decimal.ne_of_isDigit isDigit rfl).symm
    have unknown : 'n' ≠ first := (Decimal.ne_of_isDigit isDigit rfl).symm
    simp [startsWith?, written, infinite, unknown]
  have whole : fraction? ('\n' :: rest) = none := rfl
  simp only [readDecimal, sign, noWord, reads, whole, naturalOf_toDigits, Option.bind_eq_bind,
    Option.bind_some]
  cases int64? (if negative then -(value : Int) else value) <;> rfl

theorem readNumber_of_decimal {first : Char} {rest : List Char}
    (based : first = '0' → ∀ letter ∈ rest.head?, letter ≠ 'x' ∧ letter ≠ 'o' ∧ letter ≠ 'b') :
    readNumber (first :: rest) = readDecimal (first :: rest) := by
  unfold readNumber
  split
  · next equal =>
      cases equal
      exact absurd rfl (based rfl 'x' rfl).1
  · next equal =>
      cases equal
      exact absurd rfl (based rfl 'o' rfl).2.1
  · next equal =>
      cases equal
      exact absurd rfl (based rfl 'b' rfl).2.2
  · rfl

theorem readSign_of_isDigit {first : Char} {rest : List Char} (isDigit : first.isDigit = true) :
    readSign (first :: rest) = (false, first :: rest) := by
  unfold readSign
  split
  · next equal => exact absurd (List.cons.inj equal).1 (Decimal.ne_of_isDigit isDigit rfl)
  · next equal => exact absurd (List.cons.inj equal).1 (Decimal.ne_of_isDigit isDigit rfl)
  · rfl

theorem readNumber_toDigits (value : Nat) (rest : List Char) :
    readNumber (Nat.toDigits 10 value ++ '\n' :: rest) =
      (int64? value).map (·, '\n' :: rest) := by
  have all (digit : Char) (member : digit ∈ Nat.toDigits 10 value) : digit.isDigit = true :=
    Decimal.isDigit_of_mem_toDigits member
  rcases Decimal.exists_toDigits value with ⟨first, later, written, isDigit⟩
  have sign := @readSign_of_isDigit first (later ++ '\n' :: rest) isDigit
  rw [← List.cons_append, ← written] at sign
  refine .trans ?_ (readDecimal_of_readSign sign)
  rw [written, List.cons_append]
  apply readNumber_of_decimal
  intro _ letter next
  cases later with
  | nil =>
      cases next
      decide
  | cons digit later =>
      cases next
      have isDigit := all letter (by simp [written])
      exact ⟨Decimal.ne_of_isDigit isDigit rfl, Decimal.ne_of_isDigit isDigit rfl,
        Decimal.ne_of_isDigit isDigit rfl⟩

/-- A whole number at the end of its line. -/
theorem readNumberOrMoment_write {value : Int} (least : Int64.minValue.toInt ≤ value)
    (most : value ≤ Int64.maxValue.toInt) (rest : List Char) :
    readNumberOrMoment (Decimal.write value ++ '\n' :: rest) =
      some (.integer value, '\n' :: rest) := by
  have inside : int64? value = some (.integer value) := if_pos ⟨least, most⟩
  cases value with
  | ofNat value =>
      have all (digit : Char) (member : digit ∈ Nat.toDigits 10 value) : digit.isDigit = true :=
        Decimal.isDigit_of_mem_toDigits member
      have notDate := @no_mark_after_digits (Nat.toDigits 10 value) all '\n' '-' (by decide)
        (by decide) (by decide) 4 rest
      have notTime := @no_mark_after_digits (Nat.toDigits 10 value) all '\n' ':' (by decide)
        (by decide) (by decide) 2 rest
      rw [Decimal.write, readNumberOrMoment, looksLikeDate, looksLikeTime, notDate, notTime]
      exact (readNumber_toDigits value rest).trans (congrArg (Option.map _) inside)
  | negSucc value =>
      have sign : readSign ('-' :: (Nat.toDigits 10 (value + 1) ++ '\n' :: rest)) =
          (true, Nat.toDigits 10 (value + 1) ++ '\n' :: rest) := rfl
      have decimal := @readNumber_of_decimal '-' (Nat.toDigits 10 (value + 1) ++ '\n' :: rest)
        (by intro equal; cases equal)
      rw [Decimal.write, readNumberOrMoment, looksLikeDate, looksLikeTime, List.cons_append,
        readFixed_minus, readFixed_minus]
      exact (decimal.trans (readDecimal_of_readSign sign)).trans (congrArg (Option.map _) inside)

/-! ## Values -/

/-- A value that is written on one line, without escapes. -/
inductive Scalar where
  | text (value : String)
  | integer (value : Int)
  | truth (value : Bool)
  deriving DecidableEq, Repr

namespace Scalar

def item : Scalar → Item
  | text value => .text value
  | integer value => .integer value
  | truth value => .truth value

def write : Scalar → List Char
  | text value => '"' :: (value.toList ++ ['"'])
  | integer value => Decimal.write value
  | truth true => ['t', 'r', 'u', 'e']
  | truth false => ['f', 'a', 'l', 's', 'e']

def Fits : Scalar → Prop
  | text value => ∀ character ∈ value.toList, IsVerbatim character
  | integer value => Int64.minValue.toInt ≤ value ∧ value ≤ Int64.maxValue.toInt
  | truth _ => True

instance : (scalar : Scalar) → Decidable scalar.Fits
  | text value => inferInstanceAs (Decidable (∀ character ∈ value.toList, IsVerbatim character))
  | integer _ => inferInstanceAs (Decidable (_ ∧ _))
  | truth _ => inferInstanceAs (Decidable True)

end Scalar

theorem readValue_of_number {first : Char} {rest : List Char} (bound : Nat)
    (number : first = '-' ∨ first.isDigit = true) :
    readValue (bound + 1) (first :: rest) = readNumberOrMoment (first :: rest) := by
  have other {letter : Char} (minus : letter ≠ '-') (digit : letter.isDigit = false) :
      first ≠ letter := by
    intro equal
    rw [equal] at number
    rcases number with same | isDigit
    · exact minus same
    · rw [digit] at isDigit
      cases isDigit
  unfold readValue
  split
  case h_7 => rfl
  all_goals
    next equal => exact absurd (List.cons.inj equal).1 (other (by decide) (by decide))

theorem exists_write (value : Int) : ∃ first rest, Decimal.write value = first :: rest ∧
    (first = '-' ∨ first.isDigit = true) := by
  cases value with
  | ofNat value =>
      rcases Decimal.exists_toDigits value with ⟨first, rest, written, isDigit⟩
      exact ⟨first, rest, written, .inr isDigit⟩
  | negSucc value => exact ⟨'-', _, rfl, .inl rfl⟩

theorem readValue_write {scalar : Scalar} (fits : scalar.Fits) (bound : Nat) (rest : List Char) :
    readValue (bound + 1) (scalar.write ++ '\n' :: rest) = some (scalar.item, '\n' :: rest) := by
  cases scalar with
  | text value =>
      have reads := @readString_verbatim value.toList ('\n' :: rest) fits (by simp)
      rw [String.ofList_toList] at reads
      simp only [Scalar.write, List.cons_append, List.append_assoc, List.nil_append, readValue,
        reads]
      rfl
  | integer value =>
      have reads := readNumberOrMoment_write fits.1 fits.2 rest
      rcases exists_write value with ⟨first, later, written, number⟩
      rw [Scalar.write]
      rw [written, List.cons_append] at reads ⊢
      rw [readValue_of_number bound number, reads]
      rfl
  | truth value => cases value <;> rfl

theorem skipSpaces_cons {character : Char} (solid : isSpace character = false) (rest : List Char) :
    skipSpaces (character :: rest) = character :: rest := by
  rw [skipSpaces, List.dropWhile_cons, solid]
  rfl

theorem skipSpaces_write (scalar : Scalar) (rest : List Char) :
    skipSpaces (scalar.write ++ rest) = scalar.write ++ rest := by
  cases scalar with
  | text value => rfl
  | integer value =>
      rcases exists_write value with ⟨first, later, written, number⟩
      rw [Scalar.write, written]
      apply skipSpaces_cons
      rcases number with minus | isDigit
      · rw [minus]
        decide
      · have space := Decimal.ne_of_isDigit isDigit (show ' '.isDigit = false by decide)
        have tab := Decimal.ne_of_isDigit isDigit (show '\t'.isDigit = false by decide)
        simp [isSpace, space, tab]
  | truth value => cases value <;> rfl

end Tenancy.Toml
