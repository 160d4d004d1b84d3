import Mathlib.Algebra.Group.Nat.Defs
import Tenancy.Instant.Text
import Tenancy.Proofs.Calendar
import Tenancy.Proofs.Text.Decimal

/-! An instant comes back from its text, whatever its year, its decimals and its second. -/

namespace Tenancy.Instant

open Tenancy.Text

/-! ## Digits -/

theorem isDigit_of_mem_padded {width number : Nat} {character : Char}
    (member : character ∈ padded width number) : character.isDigit = true := by
  rcases List.mem_append.mp member with filling | digit
  · rw [List.eq_of_mem_replicate filling]
    rfl
  · exact Decimal.isDigit_of_mem_toDigits digit

theorem length_padded {width number : Nat} (wide : 0 < width) (fits : number < 10 ^ width) :
    (padded width number).length = width := by
  have narrow := (Nat.length_toDigits_le_iff (by decide) wide).mpr fits
  simp only [padded, List.length_append, List.length_replicate]
  exact Nat.sub_add_cancel narrow

theorem exists_padded (width number : Nat) :
    ∃ first rest, padded width number = first :: rest ∧ first.isDigit = true := by
  cases written : padded width number with
  | nil =>
      have both := List.append_eq_nil_iff.mp written
      exact absurd both.2 Nat.toDigits_ne_nil
  | cons first rest =>
      exact ⟨first, rest, rfl, isDigit_of_mem_padded (written ▸ List.mem_cons_self)⟩

theorem value_padded (width number : Nat) : value (padded width number) = number := by
  have zeros (count : Nat) :
      (List.replicate count '0').foldl
        (fun total digit => total * 10 + (digit.toNat - '0'.toNat)) 0 = 0 := by
    induction count with
    | zero => rfl
    | succ count induction => exact induction
  rw [value, padded, List.foldl_append, zeros, Decimal.foldl_toDigits]

/-- No digit follows. -/
def EndsDigits (rest : List Char) : Prop :=
  ∀ character ∈ rest.head?, character.isDigit = false

/-- All the digits are taken where no more may be, or where no more follow. -/
theorem spanDigits_append {limit : Nat} {digits rest : List Char}
    (all : ∀ character ∈ digits, character.isDigit = true) (within : digits.length ≤ limit)
    (ends : digits.length = limit ∨ EndsDigits rest) :
    spanDigits limit (digits ++ rest) = (digits, rest) := by
  induction digits generalizing limit with
  | nil =>
      cases limit with
      | zero => rfl
      | succ limit =>
          have other : EndsDigits rest := ends.resolve_left nofun
          cases rest with
          | nil => rfl
          | cons character rest =>
              rw [List.nil_append, spanDigits, other character rfl]
              rfl
  | cons character digits induction =>
      cases limit with
      | zero => exact absurd within (Nat.not_succ_le_zero _)
      | succ limit =>
          have rest := induction (fun other member => all other (List.mem_cons_of_mem _ member))
            (Nat.le_of_succ_le_succ within) (ends.imp_left Nat.succ.inj)
          rw [List.cons_append, spanDigits, all character List.mem_cons_self, if_pos rfl, rest]

theorem trimStart_of_isDigit {first : Char} {rest : List Char} (digit : first.isDigit = true) :
    trimStart (first :: rest) = first :: rest := by
  have solid : isBlank first = false := by
    simp only [Char.isDigit, Bool.and_eq_true, decide_eq_true_eq, ge_iff_le, UInt32.le_iff_toNat_le]
      at digit
    change 48 ≤ first.toNat ∧ first.toNat ≤ 57 at digit
    simp [isBlank]
    omega
  rw [trimStart, List.dropWhile_cons, solid]
  rfl

theorem trimStart_padded (width number : Nat) (rest : List Char) :
    trimStart (padded width number ++ rest) = padded width number ++ rest := by
  rcases exists_padded width number with ⟨first, digits, written, digit⟩
  rw [written, List.cons_append, trimStart_of_isDigit digit]

theorem readNumber_padded {width number : Nat} (wide : 0 < width) (fits : number < 10 ^ width)
    (rest : List Char) : readNumber width (padded width number ++ rest) = some (number, rest) := by
  have length := length_padded wide fits
  have filled : (padded width number).isEmpty = false := by
    rw [List.isEmpty_eq_false_iff, ← List.length_pos_iff, length]
    exact wide
  rw [readNumber, trimStart_padded]
  simp only [spanDigits_append (fun _ => isDigit_of_mem_padded) (Nat.le_of_eq length) (.inl length),
    filled, value_padded]
  rfl

/-! ## Parts -/

theorem readYear_writeYear (year : Int) {rest : List Char} (ends : EndsDigits rest) :
    readYear (writeYear year ++ rest) = some (year, rest) := by
  unfold writeYear
  split
  · next plain =>
      have number : ((year.toNat : Nat) : Int) = year := Int.toNat_of_nonneg plain.1
      have reads := readNumber_padded (show 0 < 4 by decide)
        (show year.toNat < 10 ^ 4 by omega) rest
      rcases exists_padded 4 year.toNat with ⟨first, digits, written, digit⟩
      rw [written, List.cons_append] at reads ⊢
      rw [readYear, trimStart_of_isDigit digit]
      split
      · next equal => exact absurd (List.cons.inj equal).1 (Decimal.ne_of_isDigit digit rfl)
      · next equal => exact absurd (List.cons.inj equal).1 (Decimal.ne_of_isDigit digit rfl)
      · rw [reads, Option.map_some]
        simp only [number]
  · next signed =>
      have reads (sign : Int) : readYear.signed (padded 4 year.natAbs ++ rest) sign =
          some (sign * year.natAbs, rest) := by
        have filled : (padded 4 year.natAbs).isEmpty = false := by
          rcases exists_padded 4 year.natAbs with ⟨first, digits, written, -⟩
          rw [written]
          rfl
        have within : (padded 4 year.natAbs).length ≤ (padded 4 year.natAbs ++ rest).length := by
          rw [List.length_append]
          exact Nat.le_add_right _ _
        rw [readYear.signed]
        simp only [spanDigits_append (fun _ => isDigit_of_mem_padded) within (.inr ends), filled,
          value_padded]
        rfl
      split
      · next negative =>
          have number : -1 * (year.natAbs : Int) = year := by omega
          exact (reads (-1)).trans (by rw [number])
      · next positive =>
          have number : 1 * (year.natAbs : Int) = year := by omega
          exact (reads 1).trans (by rw [number])

theorem readFraction_decimals {width nanos : Nat} (wide : 0 < width) (nine : width ≤ 9)
    (whole : nanos % 10 ^ (9 - width) = 0) (small : nanos < 10 ^ 9) {rest : List Char}
    (ends : EndsDigits rest) :
    readFraction ('.' :: padded width (nanos / 10 ^ (9 - width)) ++ rest) = some (nanos, rest) := by
  have fits : nanos / 10 ^ (9 - width) < 10 ^ width := by
    rw [Nat.div_lt_iff_lt_mul (Nat.pow_pos (by decide)), ← Nat.pow_add, Nat.add_sub_cancel' nine]
    exact small
  have length := length_padded wide fits
  have filled : (padded width (nanos / 10 ^ (9 - width))).isEmpty = false := by
    rw [List.isEmpty_eq_false_iff, ← List.length_pos_iff, length]
    exact wide
  have within : (padded width (nanos / 10 ^ (9 - width))).length ≤ 9 :=
    Nat.le_trans (Nat.le_of_eq length) nine
  have after : rest.dropWhile Char.isDigit = rest := by
    cases rest with
    | nil => rfl
    | cons character rest => rw [List.dropWhile_cons, ends character rfl]; rfl
  rw [List.cons_append, readFraction]
  simp only [spanDigits_append (fun _ => isDigit_of_mem_padded) within (.inr ends),
    filled, value_padded, length, after]
  rw [if_neg Bool.false_ne_true, Nat.pow_eq, Nat.div_mul_cancel (Nat.dvd_of_mod_eq_zero whole)]

theorem readFraction_writeFraction {nanos : Nat} (small : nanos < 10 ^ 9) {rest : List Char}
    (ends : EndsDigits rest) (point : rest.head? ≠ some '.') :
    readFraction (writeFraction nanos ++ rest) = some (nanos, rest) := by
  unfold writeFraction
  split
  · next none =>
      rw [List.nil_append, none]
      unfold readFraction
      split
      · exact absurd rfl point
      · rfl
  split
  · next three => exact readFraction_decimals (show 0 < 3 by decide) (by decide) three small ends
  split
  · next six => exact readFraction_decimals (show 0 < 6 by decide) (by decide) six small ends
  · have nine := readFraction_decimals (show 0 < 9 by decide) (by decide) (Nat.mod_one nanos)
      small ends
    rw [Nat.sub_self, Nat.pow_zero, Nat.div_one] at nine
    exact nine

/-! ## Instants -/

/-- The calendar begins and ends with whole years. -/
theorem year_ofDays {instant : Instant} :
    earliestYear ≤ (Calendar.Date.ofDays (instant.seconds / 86400)).year ∧
      (Calendar.Date.ofDays (instant.seconds / 86400)).year ≤ latestYear := by
  have date := Calendar.Date.ofDays_of (instant.seconds / 86400)
  generalize Calendar.Date.ofDays (instant.seconds / 86400) = day at date ⊢
  have begun := date.begun
  have lasts := date.lasts
  have first := instant.valid.1
  have last := instant.valid.2.1
  have begin : Calendar.daysBefore earliestYear = (earliestSecond / 86400) + Calendar.epochDay := by
    decide
  have finish : Calendar.daysBefore (latestYear + 1) =
      (latestSecond / 86400) + Calendar.epochDay + 1 := by
    decide
  constructor
  · apply Int.le_of_lt_add_one
    apply Calendar.lt_of_daysBefore_lt
    omega
  · apply Int.le_of_lt_add_one
    apply Calendar.lt_of_daysBefore_lt
    omega

/-- The sixtieth second is there for the nanoseconds past a second. -/
theorem assemble_parts (instant : Instant) :
    assemble (Calendar.Date.ofDays (instant.seconds / 86400))
      ((instant.seconds % 86400).toNat / 3600) ((instant.seconds % 86400).toNat / 60 % 60)
      ((instant.seconds % 86400).toNat % 60 + instant.nanos / 1000000000)
      (instant.nanos % 1000000000) 0 = some instant := by
  have date := Calendar.Date.ofDays_of (instant.seconds / 86400)
  have year := @year_ofDays instant
  generalize Calendar.Date.ofDays (instant.seconds / 86400) = day at date year ⊢
  have leap := instant.valid.2.2
  generalize clock : (instant.seconds % 86400).toNat = time
  have valid : day.valid = true := by
    rw [Calendar.Date.valid, Bool.and_eq_true, decide_eq_true_eq, decide_eq_true_eq]
    exact date.day
  have inRange : (day.valid && earliestYear ≤ day.year && day.year ≤ latestYear &&
      time / 3600 ≤ 23 && time / 60 % 60 ≤ 59 &&
      time % 60 + instant.nanos / 1000000000 ≤ 60 && (0 : Int).natAbs < 86400) = true := by
    simp only [valid, Bool.true_and, Bool.and_eq_true, decide_eq_true_eq]
    refine ⟨⟨⟨⟨year, ?_⟩, ?_⟩, ?_⟩, by decide⟩ <;> omega
  have seconds : day.toDays * 86400 + (time / 3600 * 3600 + time / 60 % 60 * 60 +
      min (time % 60 + instant.nanos / 1000000000) 59 : Nat) - 0 = instant.seconds := by
    rw [date.toDays]
    omega
  have nanos : (time % 60 + instant.nanos / 1000000000 -
      min (time % 60 + instant.nanos / 1000000000) 59) * 1000000000 +
        instant.nanos % 1000000000 = instant.nanos := by
    omega
  rw [assemble, if_pos inRange]
  simp only [seconds, nanos]
  exact ofParts?_parts instant

theorem readMark_cons {mark : Char} (solid : isBlank mark = false) (rest : List Char) :
    readMark mark (mark :: rest) = some rest := by
  rw [readMark, trimStart, List.dropWhile_cons, solid]
  simp

theorem endsDigits_cons {character : Char} (other : character.isDigit = false)
    (rest : List Char) : EndsDigits (character :: rest) := by
  intro first member
  rw [List.head?_cons, Option.mem_some_iff] at member
  exact member ▸ other

theorem read?_write (instant : Instant) : read? instant.write = some instant := by
  have date := Calendar.Date.ofDays_of (instant.seconds / 86400)
  have assembled := assemble_parts instant
  simp only [read?, write, writeWith, List.append_assoc, List.cons_append]
  generalize Calendar.Date.ofDays (instant.seconds / 86400) = day at date assembled ⊢
  have leap := instant.valid.2.2
  have month : day.month < 100 := Nat.lt_of_le_of_lt date.month.2 (by decide)
  have dayOfMonth : day.day < 100 := by
    have short := Calendar.monthLength_le day.year day.month
    have last := date.day.2
    omega
  generalize clock : (instant.seconds % 86400).toNat = time at assembled ⊢
  have hour : time / 3600 < 100 := by omega
  have minute : time / 60 % 60 < 100 := by omega
  have second : time % 60 + instant.nanos / 1000000000 < 100 := by omega
  have fraction : readFraction (writeFraction (instant.nanos % 1000000000) ++ ['Z']) =
      some (instant.nanos % 1000000000, ['Z']) :=
    readFraction_writeFraction (Nat.mod_lt instant.nanos (by decide)) (endsDigits_cons rfl [])
      (by decide)
  have zone : readOffset (trimStart ['Z']) = some (0, []) := by decide
  have twoDigits {number : Nat} (fits : number < 100) (rest : List Char) :
      readNumber 2 (padded 2 number ++ rest) = some (number, rest) :=
    readNumber_padded (by decide) fits rest
  rw [readYear_writeYear day.year (endsDigits_cons rfl _)]
  simp only [bind, Option.bind, readMark_cons (show isBlank '-' = false from rfl),
    readMark_cons (show isBlank ':' = false from rfl), twoDigits month, twoDigits dayOfMonth,
    twoDigits hour, twoDigits minute, twoDigits second, read?.separator,
    fraction, zone]
  exact assembled

end Tenancy.Instant
