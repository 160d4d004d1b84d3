import Tenancy.Json.Reader
import Tenancy.Json.Writer
import Tenancy.Proofs.Text.Decimal
import Tenancy.Proofs.Text.Utf8

/-! Strings and whole numbers come back from what is written for them, whether they are read or
passed over. -/

namespace Tenancy.Json

open Tenancy.Text

theorem textOf_encode (text : List Char) : textOf (Utf8.encode text) = text := by
  rw [textOf, Utf8.scan_encode, List.flatMap_map]
  exact List.flatMap_singleton' text

/-- Bytes that are UTF-8 throughout are read as the characters they encode. -/
theorem textOf_eq_of_decode? {bytes : List UInt8} {text : List Char}
    (decoded : Utf8.decode? bytes = some text) : textOf bytes = text := by
  rw [Utf8.decode?_eq_some_iff.mp decoded, textOf_encode]

theorem skipSpace_cons {character : Char} {rest : List Char} (solid : isSpace character = false) :
    skipSpace (character :: rest) = character :: rest := by
  rw [skipSpace, List.dropWhile_cons, solid]
  rfl

theorem skipValue_of_scalar {first : Char} {rest after : List Char}
    (solid : isSpace first = false) (list : first ≠ '[') (record : first ≠ '\x7b')
    (skips : skipScalar (first :: rest) = some after) :
    skipValue (first :: rest) = .ok ((), after) := by
  have step (bound : Nat) : skipValueWithin (bound + 1) (first :: rest) = some after := by
    rw [skipValueWithin, skipSpace_cons solid]
    split
    · next equal => exact absurd (List.cons.inj equal).1 list
    · next equal => exact absurd (List.cons.inj equal).1 record
    · exact skips
  rw [skipValue, step]

/-! ## Strings -/

theorem hexUnit?_control {value : Nat} (control : value < 0x20) :
    hexUnit? '0' '0' (hexLetter (value / 16)) (hexLetter (value % 16)) = some value := by
  have all : ∀ value : Fin 32, hexUnit? '0' '0' (hexLetter (value.val / 16))
      (hexLetter (value.val % 16)) = some value.val := by decide +kernel
  exact all ⟨value, control⟩

theorem readChars_quote (rest : List Char) : readChars ('"' :: rest) = .ok ([], rest) := rfl

theorem skipChars_quote (rest : List Char) : skipChars ('"' :: rest) = some rest := rfl

/-- An escape by number that starts no pair. -/
theorem readChars_unit {first second third fourth : Char} {unit : Nat} {rest : List Char}
    (number : hexUnit? first second third fourth = some unit)
    (single : isHighSurrogate unit = false) :
    readChars ('\\' :: 'u' :: first :: second :: third :: fourth :: rest) =
      if isLowSurrogate unit then .error .malformed
      else (readChars rest).map fun (characters, after) =>
        (Char.ofNat unit :: characters, after) := by
  simp only [readChars, number, single, Bool.false_eq_true, if_false]

theorem skipChars_unit {first second third fourth : Char} {unit : Nat} {rest : List Char}
    (number : hexUnit? first second third fourth = some unit) :
    skipChars ('\\' :: 'u' :: first :: second :: third :: fourth :: rest) = skipChars rest := by
  simp only [skipChars, number]

/-- A character that needs no escape. -/
theorem readChars_plain {character : Char} {rest : List Char} (quote : character ≠ '"')
    (backslash : character ≠ '\\') (visible : ¬character.toNat < 0x20) :
    readChars (character :: rest) =
      (readChars rest).map fun (characters, after) => (character :: characters, after) := by
  rw [readChars, if_neg visible] <;> simp [quote, backslash]

theorem skipChars_plain {character : Char} {rest : List Char} (quote : character ≠ '"')
    (backslash : character ≠ '\\') (visible : ¬character.toNat < 0x20) :
    skipChars (character :: rest) = skipChars rest := by
  rw [skipChars, if_neg visible] <;> simp [quote, backslash]

theorem readChars_escapeChar (character : Char) (rest : List Char) :
    readChars (escapeChar character ++ rest) =
      (readChars rest).map fun (characters, after) => (character :: characters, after) := by
  unfold escapeChar
  split
  · rfl
  · rfl
  · rfl
  · rfl
  · rfl
  · rfl
  · rfl
  · next quote backslash _ _ _ _ _ =>
    split
    · next control =>
        have unit := hexUnit?_control control
        have high : isHighSurrogate character.toNat = false := by
          simp [isHighSurrogate]
          omega
        have low : isLowSurrogate character.toNat = false := by
          simp [isLowSurrogate]
          omega
        simp only [List.cons_append, List.nil_append, readChars_unit unit high, low,
          Bool.false_eq_true, if_false, Char.ofNat_toNat]
    · next visible => exact readChars_plain quote backslash visible

theorem readChars_append (characters rest : List Char) :
    readChars (characters.flatMap escapeChar ++ rest) =
      (readChars rest).map fun (later, after) => (characters ++ later, after) := by
  induction characters with
  | nil =>
      rw [List.flatMap_nil, List.nil_append]
      cases readChars rest <;> rfl
  | cons character characters reads =>
      rw [List.flatMap_cons, List.append_assoc, readChars_escapeChar, reads]
      cases readChars rest <;> rfl

theorem readChars_flatMap (characters rest : List Char) :
    readChars (characters.flatMap escapeChar ++ '"' :: rest) = .ok (characters, rest) := by
  simp [readChars_append, readChars_quote, Except.map]

theorem skipChars_escapeChar (character : Char) (rest : List Char) :
    skipChars (escapeChar character ++ rest) = skipChars rest := by
  unfold escapeChar
  split
  · rfl
  · rfl
  · rfl
  · rfl
  · rfl
  · rfl
  · rfl
  · next quote backslash _ _ _ _ _ =>
    split
    · next control =>
        simp only [List.cons_append, List.nil_append, skipChars_unit (hexUnit?_control control)]
    · next visible => exact skipChars_plain quote backslash visible

theorem skipChars_append (characters rest : List Char) :
    skipChars (characters.flatMap escapeChar ++ rest) = skipChars rest := by
  induction characters with
  | nil => rfl
  | cons character characters skips =>
      rw [List.flatMap_cons, List.append_assoc, skipChars_escapeChar, skips]

theorem skipChars_flatMap (characters rest : List Char) :
    skipChars (characters.flatMap escapeChar ++ '"' :: rest) = some rest := by
  rw [skipChars_append, skipChars_quote]

theorem stray_append (rest : List Char) :
    stray ++ rest = 'x' :: '\\' :: 'u' :: 'd' :: 'c' :: '0' :: '0' :: rest :=
  rfl

theorem hexUnit?_stray : hexUnit? 'd' 'c' '0' '0' = some 0xDC00 := rfl

theorem readChars_stray (rest : List Char) : readChars (stray ++ rest) = .error .malformed := by
  rw [stray_append, readChars_plain (by decide) (by decide) (by decide),
    readChars_unit hexUnit?_stray rfl]
  rfl

theorem skipChars_stray (rest : List Char) : skipChars (stray ++ rest) = skipChars rest := by
  rw [stray_append, skipChars_plain (by decide) (by decide) (by decide),
    skipChars_unit hexUnit?_stray]

/-- Bytes of no character keep a string from being used, but not from being passed over. -/
theorem strays_in_string (before after rest : List Char) :
    let text := before.flatMap escapeChar ++ stray ++ after.flatMap escapeChar ++ '"' :: rest
    readString ('"' :: text) = .error .malformed ∧ skipChars text = some rest := by
  intro text
  constructor
  · rw [readString, skipSpace_cons rfl]
    simp only [text, List.append_assoc, readChars_append, readChars_stray, Except.map]
  · simp only [text, List.append_assoc, skipChars_append, skipChars_stray, skipChars_quote]

theorem writeString_append (text : String) (rest : List Char) :
    writeString text ++ rest = '"' :: (text.toList.flatMap escapeChar ++ '"' :: rest) := by
  rw [writeString, List.cons_append, List.append_assoc, List.singleton_append]

theorem readString_writeString (text : String) (rest : List Char) :
    readString (writeString text ++ rest) = .ok (text, rest) := by
  rw [writeString_append, readString, skipSpace_cons rfl]
  simp only [readChars_flatMap]
  exact congrArg (fun text => Except.ok (text, rest)) String.ofList_toList

theorem skipValue_writeString (text : String) (rest : List Char) :
    skipValue (writeString text ++ rest) = .ok ((), rest) := by
  rw [writeString_append]
  exact skipValue_of_scalar rfl (by decide) (by decide) (skipChars_flatMap text.toList rest)

/-! ## Whole numbers -/

/-- A number ends where this follows. -/
def EndsNumber (rest : List Char) : Prop :=
  ∀ character ∈ rest.head?, character.isDigit = false ∧ character ≠ '.' ∧ character ≠ 'e' ∧
    character ≠ 'E'

theorem endsNumber_comma (rest : List Char) : EndsNumber (',' :: rest) := by
  simp [EndsNumber]

theorem endsNumber_brace (rest : List Char) : EndsNumber ('\x7d' :: rest) := by
  simp [EndsNumber]

theorem spanDigits_append {digits rest : List Char}
    (all : ∀ character ∈ digits, character.isDigit = true) (ends : EndsNumber rest) :
    spanDigits (digits ++ rest) = (digits, rest) := by
  rw [spanDigits, List.takeWhile_append_of_pos all,
    List.dropWhile_append_of_pos all]
  cases rest with
  | nil => rw [List.takeWhile_nil, List.append_nil, List.dropWhile_nil]
  | cons character rest =>
      have other : ¬character.isDigit = true := by
        rw [(ends character rfl).1]
        decide
      rw [List.takeWhile_cons_of_neg other, List.append_nil, List.dropWhile_cons_of_neg other]

theorem readWhole_toDigits (value : Nat) {rest : List Char} (ends : EndsNumber rest) :
    readWhole (Nat.toDigits 10 value ++ rest) = some (Nat.toDigits 10 value, rest) := by
  have span := @spanDigits_append (Nat.toDigits 10 value) rest
    (fun _ => Decimal.isDigit_of_mem_toDigits) ends
  rw [readWhole, span]
  split
  · next equal => exact absurd (Prod.mk.inj equal).1 Nat.toDigits_ne_nil
  · next equal =>
      have digits := (Prod.mk.inj equal).1
      rcases Nat.eq_zero_or_pos value with zero | positive
      · rw [zero, Nat.toDigits_zero] at digits
        cases digits
      · exact absurd (congrArg List.head? digits) (Decimal.head?_toDigits positive)
  · next equal => rw [← equal]

theorem readFraction_of_ends {rest : List Char} (ends : EndsNumber rest) :
    readFraction rest = some (none, rest) := by
  unfold readFraction
  split
  · exact absurd rfl (ends '.' rfl).2.1
  · rfl

theorem readExponent_of_ends {rest : List Char} (ends : EndsNumber rest) :
    readExponent rest = some (none, rest) := by
  unfold readExponent
  split
  · exact absurd rfl (ends 'e' rfl).2.2.1
  · exact absurd rfl (ends 'E' rfl).2.2.2
  · rfl

/-- The digits of a number with nothing after them, its sign apart. -/
theorem scanDigits (value : Nat) {rest : List Char} (ends : EndsNumber rest) (negative : Bool) :
    (do
      let (whole, rest) ← readWhole (Nat.toDigits 10 value ++ rest)
      let (fraction, rest) ← readFraction rest
      let (exponent, rest) ← readExponent rest
      some ((⟨negative, whole, fraction, exponent⟩ : NumberText), rest)) =
      some (⟨negative, Nat.toDigits 10 value, none, none⟩, rest) := by
  simp only [readWhole_toDigits value ends, readFraction_of_ends ends, readExponent_of_ends ends,
    Option.bind_eq_bind, Option.bind_some]

theorem scanNumber_negative (value : Nat) {rest : List Char} (ends : EndsNumber rest) :
    scanNumber ('-' :: (Nat.toDigits 10 value ++ rest)) =
      some (⟨true, Nat.toDigits 10 value, none, none⟩, rest) :=
  scanDigits value ends true

theorem scanNumber_natural (value : Nat) {rest : List Char} (ends : EndsNumber rest) :
    scanNumber (Nat.toDigits 10 value ++ rest) =
      some (⟨false, Nat.toDigits 10 value, none, none⟩, rest) := by
  have whole := scanDigits value ends false
  rcases Decimal.exists_toDigits value with ⟨first, digits, written, digit⟩
  rw [written, List.cons_append] at whole ⊢
  unfold scanNumber
  split
  next sign unsigned equal =>
    split at equal
    · next minus => exact absurd (List.cons.inj minus).1 (Decimal.ne_of_isDigit digit rfl)
    · cases equal
      exact whole

theorem digitsValue_toDigits (value : Nat) : digitsValue (Nat.toDigits 10 value) = value :=
  Decimal.foldl_toDigits value

theorem classify_natural {value : Nat} (small : value < UInt64.size) :
    NumberText.classify ⟨false, Nat.toDigits 10 value, none, none⟩ = .ok (.natural value) := by
  simp [NumberText.classify, digitsValue_toDigits, small]

theorem classify_negative {value : Nat} (positive : value ≠ 0) (small : value ≤ 1 <<< 63) :
    NumberText.classify ⟨true, Nat.toDigits 10 value, none, none⟩ = .ok (.negative value) := by
  have inside : value < UInt64.size := Nat.lt_of_le_of_lt small (by decide)
  have notOther : ¬(value = 0 ∨ 1 <<< 63 < value) := by omega
  simp only [NumberText.classify, digitsValue_toDigits, inside, notOther, if_false]
  rfl

theorem not_isSpace_of_start {first : Char} (start : (first == '-' || first.isDigit) = true) :
    isSpace first = false := by
  rw [Bool.eq_false_iff]
  intro space
  simp only [isSpace, Bool.or_eq_true, beq_iff_eq] at space
  rcases space with ((rfl | rfl) | rfl) | rfl <;> exact absurd start (by decide)

theorem readInteger_of_readNumber {low high value : Int} {first : Char} {text rest : List Char}
    {number : Number} (start : (first == '-' || first.isDigit) = true)
    (reads : readNumber (first :: text) = .ok (number, rest))
    (means : number = .natural value.toNat ∧ 0 ≤ value ∨
      number = .negative (-value).toNat ∧ value < 0)
    (least : low ≤ value) (most : value ≤ high) :
    readInteger low high (first :: text) = .ok (value, rest) := by
  simp only [readInteger, skipSpace_cons (not_isSpace_of_start start), start, if_true, reads]
  rcases means with ⟨rfl, positive⟩ | ⟨rfl, negative⟩
  · have whole : (value.toNat : Int) = value := Int.toNat_of_nonneg positive
    simp only [bind, Except.bind, pure, Except.pure, whole]
    rw [if_pos ⟨least, most⟩]
  · have whole : -((-value).toNat : Int) = value := by omega
    simp only [bind, Except.bind, pure, Except.pure, whole]
    rw [if_pos ⟨least, most⟩]

/-- Every whole number that some width holds. -/
theorem readInteger_writeInteger {low high value : Int} {rest : List Char} (ends : EndsNumber rest)
    (least : low ≤ value) (most : value ≤ high) (low64 : Int64.minValue.toInt ≤ value)
    (high64 : value < UInt64.size) :
    readInteger low high (writeInteger value ++ rest) = .ok (value, rest) := by
  cases value with
  | ofNat value =>
      have scan := scanNumber_natural value ends
      have number := classify_natural (show value < UInt64.size by
        rw [Int.ofNat_eq_natCast] at high64
        exact Int.ofNat_lt.mp high64)
      rcases Decimal.exists_toDigits value with ⟨first, digits, written, digit⟩
      have reads : readNumber (Nat.toDigits 10 value ++ rest) = .ok (.natural value, rest) := by
        rw [readNumber, scan]
        simp only [number]
        rfl
      rw [writeInteger, Decimal.write]
      rw [written, List.cons_append] at reads ⊢
      exact readInteger_of_readNumber (by rw [digit, Bool.or_true]) reads
        (.inl ⟨rfl, Int.natCast_nonneg value⟩) least most
  | negSucc value =>
      have scan := scanNumber_negative (value + 1) ends
      have number := classify_negative (Nat.succ_ne_zero value) (by
        rw [Int.negSucc_eq, show Int64.minValue.toInt = -9223372036854775808 by decide] at low64
        omega)
      have reads : readNumber ('-' :: (Nat.toDigits 10 (value + 1) ++ rest)) =
          .ok (.negative (value + 1), rest) := by
        rw [readNumber, scan]
        simp only [number]
        rfl
      exact readInteger_of_readNumber rfl reads (.inr ⟨rfl, Int.negSucc_lt_zero value⟩) least most

/-- Every number without a sign that some width holds. -/
theorem readInteger_writeNatural {value size : Nat} {rest : List Char} (ends : EndsNumber rest)
    (small : value < size) (narrow : size ≤ UInt64.size) :
    readInteger 0 (size - 1 : Nat) (writeInteger value ++ rest) = .ok ((value : Int), rest) := by
  have signed : Int64.minValue.toInt ≤ value :=
    Int.le_trans (by decide) (Int.natCast_nonneg value)
  exact readInteger_writeInteger ends (Int.natCast_nonneg value)
    (Int.ofNat_le.mpr (Nat.le_sub_one_of_lt small)) signed
    (Int.ofNat_lt.mpr (Nat.lt_of_lt_of_le small narrow))

theorem readUInt64_writeInteger (value : UInt64) {rest : List Char} (ends : EndsNumber rest) :
    readUInt64 (writeInteger value.toNat ++ rest) = .ok (value, rest) := by
  rw [readUInt64, readInteger_writeNatural ends value.toNat_lt (Nat.le_refl _)]
  exact congrArg (fun value => Except.ok (value, rest)) UInt64.ofNat_toNat

theorem readUInt32_writeInteger (value : UInt32) {rest : List Char} (ends : EndsNumber rest) :
    readUInt32 (writeInteger value.toNat ++ rest) = .ok (value, rest) := by
  rw [readUInt32, readInteger_writeNatural ends value.toNat_lt (by decide)]
  exact congrArg (fun value => Except.ok (value, rest)) UInt32.ofNat_toNat

theorem readUInt16_writeInteger (value : UInt16) {rest : List Char} (ends : EndsNumber rest) :
    readUInt16 (writeInteger value.toNat ++ rest) = .ok (value, rest) := by
  rw [readUInt16, readInteger_writeNatural ends value.toNat_lt (by decide)]
  exact congrArg (fun value => Except.ok (value, rest)) UInt16.ofNat_toNat

theorem readInt64_writeInteger (value : Int64) {rest : List Char} (ends : EndsNumber rest) :
    readInt64 (writeInteger value.toInt ++ rest) = .ok (value, rest) := by
  have least := value.minValue_le_toInt
  have most := value.toInt_le
  have fits : value.toInt < UInt64.size := Int.lt_of_le_of_lt most (by decide)
  rw [readInt64, readInteger_writeInteger ends least most least fits]
  exact congrArg (fun value => Except.ok (value, rest)) (Int64.ofInt_toInt value)

theorem skipScalar_of_isDigit {first : Char} {rest : List Char} (digit : first.isDigit = true) :
    skipScalar (first :: rest) = (scanNumber (first :: rest)).map (·.2) := by
  unfold skipScalar
  split
  · next equal => exact absurd (List.cons.inj equal).1 (Decimal.ne_of_isDigit digit rfl)
  · next equal => exact absurd (List.cons.inj equal).1 (Decimal.ne_of_isDigit digit rfl)
  · next equal => exact absurd (List.cons.inj equal).1 (Decimal.ne_of_isDigit digit rfl)
  · next equal => exact absurd (List.cons.inj equal).1 (Decimal.ne_of_isDigit digit rfl)
  · rfl

theorem skipValue_writeInteger (value : Int) {rest : List Char} (ends : EndsNumber rest) :
    skipValue (writeInteger value ++ rest) = .ok ((), rest) := by
  cases value with
  | ofNat value =>
      have scan := scanNumber_natural value ends
      rcases Decimal.exists_toDigits value with ⟨first, digits, written, digit⟩
      rw [writeInteger, Decimal.write]
      rw [written, List.cons_append] at scan ⊢
      refine skipValue_of_scalar (not_isSpace_of_start (by rw [digit, Bool.or_true]))
        (Decimal.ne_of_isDigit digit rfl) (Decimal.ne_of_isDigit digit rfl) ?_
      rw [skipScalar_of_isDigit digit, scan]
      rfl
  | negSucc value =>
      refine skipValue_of_scalar rfl (by decide) (by decide) ?_
      have scan := scanNumber_negative (value + 1) ends
      exact congrArg (Option.map Prod.snd) scan

/-! ## Keywords -/

theorem readBool_writeBool (value : Bool) (rest : List Char) :
    readBool (writeBool value ++ rest) = .ok (value, rest) := by
  cases value <;> rfl

/-- A string that is written is not taken for null. -/
theorem readOptional_writeString (value : Option String) (rest : List Char) :
    readOptional readString (writeOptional writeString value ++ rest) = .ok (value, rest) := by
  cases value with
  | none => rfl
  | some text =>
      have reads := readString_writeString text rest
      rw [writeString_append] at reads
      rw [writeOptional, writeString_append, readOptional, skipSpace_cons rfl]
      simp only [reads]
      rfl

end Tenancy.Json
