import Mathlib.Order.Monotone.Basic
import Tenancy.Calendar

/-! Every day has a date, and the date gives the day back. -/

namespace Tenancy.Calendar

/-! ## Years -/

theorem isLeap_iff (year : Int) :
    isLeap year = true ↔ year % 4 = 0 ∧ (year % 100 ≠ 0 ∨ year % 400 = 0) := by
  simp [isLeap]

theorem daysBefore_succ (year : Int) :
    daysBefore (year + 1) = daysBefore year + if isLeap year then 366 else 365 := by
  have leap := isLeap_iff year
  unfold daysBefore
  split
  · next isLong =>
      simp only [isLong, true_iff] at leap
      omega
  · next isShort =>
      simp only [isShort, Bool.false_eq_true, false_iff] at leap
      omega

theorem lt_of_daysBefore_lt {earlier later : Int} (before : daysBefore earlier < daysBefore later) :
    earlier < later := by
  have increasing : StrictMono daysBefore := by
    apply strictMono_int_of_lt_succ
    intro year
    rw [daysBefore_succ]
    split <;> omega
  exact increasing.lt_iff_lt.mp before

/-- A day lies in its year. -/
theorem yearOf_bounds (day : Int) :
    daysBefore (yearOf day) ≤ day ∧ day < daysBefore (yearOf day + 1) := by
  -- Four hundred years have 146097 days, and within them no year begins two days off the average.
  have near (year : Int) : 146097 * year - 400 < 400 * daysBefore year ∧
      400 * daysBefore year < 146097 * year + 800 := by
    unfold daysBefore
    omega
  simp only [yearOf]
  generalize guessed : day * 400 / 146097 = guess
  have before := near (guess - 1)
  have after := near (guess + 2)
  split
  · next late =>
      rw [Int.sub_add_cancel]
      exact ⟨by omega, late⟩
  split
  · next early =>
      rw [Int.add_assoc]
      exact ⟨early, by change _ < daysBefore (guess + 2); omega⟩
  · next notLate notEarly => exact ⟨Int.not_lt.mp notLate, Int.not_le.mp notEarly⟩

/-! ## Months -/

theorem sum_monthLengths (year : Int) :
    (monthLengths year).foldr (· + ·) 0 = if isLeap year then 366 else 365 := by
  cases leap : isLeap year <;> simp [monthLengths, leap]

theorem length_monthLengths (year : Int) : (monthLengths year).length = 12 := rfl

theorem monthLength_le (year : Int) (month : Nat) : monthLength year month ≤ 31 := by
  have all : ∀ length ∈ monthLengths year, length ≤ 31 := by
    cases leap : isLeap year <;> simp [monthLengths, leap]
  unfold monthLength
  split
  · exact Nat.zero_le _
  · rw [List.getD_eq_getElem?_getD]
    cases found : (monthLengths year)[month - 1]? with
    | none => exact Nat.zero_le _
    | some length => exact all length (List.mem_of_getElem? found)

/-- A day of a year falls in one of its months, and the months before it make up the rest. -/
theorem exists_monthOf {lengths : List Nat} {dayOfYear : Nat} (month : Nat)
    (inYear : dayOfYear < lengths.foldr (· + ·) 0) :
    ∃ index day, monthOf month dayOfYear lengths = (month + index, day) ∧
      index < lengths.length ∧ 1 ≤ day ∧ day ≤ lengths.getD index 0 ∧
      (lengths.take index).foldr (· + ·) 0 + day = dayOfYear + 1 := by
  induction lengths generalizing dayOfYear month with
  | nil => exact absurd inYear (Nat.not_lt_zero _)
  | cons length rest induction =>
      rw [List.foldr_cons] at inYear
      unfold monthOf
      by_cases here : dayOfYear < length
      · rw [if_pos here]
        refine ⟨0, dayOfYear + 1, rfl, Nat.succ_pos _, Nat.succ_pos _, here, ?_⟩
        rw [List.take_zero, List.foldr_nil, Nat.zero_add]
      · rw [if_neg here]
        have later : dayOfYear - length < rest.foldr (· + ·) 0 := by omega
        rcases induction (month + 1) later with ⟨index, day, found, inside, first, last, total⟩
        refine ⟨index + 1, day, ?_, Nat.succ_lt_succ inside, first, last, ?_⟩
        · rw [found, Nat.add_assoc, Nat.add_comm 1 index]
        · rw [List.take_succ_cons, List.foldr_cons]
          omega

/-! ## Dates -/

namespace Date

/-- What is true of the date of a day. -/
structure Of (days : Int) (date : Date) : Prop where
  begun : daysBefore date.year ≤ days + epochDay
  lasts : days + epochDay < daysBefore (date.year + 1)
  month : 1 ≤ date.month ∧ date.month ≤ 12
  day : 1 ≤ date.day ∧ date.day ≤ monthLength date.year date.month
  toDays : date.toDays = days

theorem ofDays_of (days : Int) : Of days (ofDays days) := by
  have bounds := yearOf_bounds (days + epochDay)
  have year := daysBefore_succ (yearOf (days + epochDay))
  have inYear : (days + epochDay - daysBefore (yearOf (days + epochDay))).toNat <
      (monthLengths (yearOf (days + epochDay))).foldr (· + ·) 0 := by
    rw [sum_monthLengths]
    split
    · next isLong =>
        rw [if_pos isLong] at year
        omega
    · next isShort =>
        rw [if_neg isShort] at year
        omega
  rcases exists_monthOf 1 inYear with ⟨index, day, found, inside, first, last, total⟩
  have date : ofDays days = ⟨yearOf (days + epochDay), 1 + index, day⟩ := by
    simp only [ofDays, found]
  rw [length_monthLengths] at inside
  have numbered : 1 ≤ 1 + index ∧ 1 + index ≤ 12 := by omega
  rw [date]
  refine ⟨bounds.1, bounds.2, numbered, ⟨first, ?_⟩, ?_⟩
  · rw [monthLength, if_neg (Nat.ne_of_gt numbered.1), Nat.add_sub_cancel_left]
    exact last
  · simp only [toDays, Nat.add_sub_cancel_left]
    omega

end Date

end Tenancy.Calendar
