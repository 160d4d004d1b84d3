/-! The Gregorian calendar, extended in both directions with a year zero. Days are counted from the
first of January 1970. -/

namespace Tenancy.Calendar

structure Date where
  year : Int
  month : Nat
  day : Nat
  deriving DecidableEq, Repr

def isLeap (year : Int) : Bool :=
  year % 4 == 0 && (year % 100 != 0 || year % 400 == 0)

def monthLengths (year : Int) : List Nat :=
  [31, if isLeap year then 29 else 28, 31, 30, 31, 30, 31, 31, 30, 31, 30, 31]

def monthLength (year : Int) (month : Nat) : Nat :=
  if month = 0 then 0 else (monthLengths year).getD (month - 1) 0

/-- The days from the first of January of year zero to the first of January of `year`. -/
def daysBefore (year : Int) : Int :=
  365 * year + (year + 3) / 4 - (year + 99) / 100 + (year + 399) / 400

/-- The first of January 1970, counted from year zero. -/
def epochDay : Int := 719528

example : daysBefore 1970 = epochDay := by decide

/-- The year that holds a day counted from year zero. Taking every year to have the average length
is at most one year off. -/
def yearOf (day : Int) : Int :=
  let guess := day * 400 / 146097
  if day < daysBefore guess then guess - 1
  else if daysBefore (guess + 1) ≤ day then guess + 1
  else guess

/-- The month and day of the month for a day of the year counted from zero. -/
def monthOf (month : Nat) (dayOfYear : Nat) : List Nat → Nat × Nat
  | [] => (month, dayOfYear + 1)
  | length :: rest =>
      if dayOfYear < length then (month, dayOfYear + 1)
      else monthOf (month + 1) (dayOfYear - length) rest

namespace Date

def valid (date : Date) : Bool :=
  1 ≤ date.day && date.day ≤ monthLength date.year date.month

/-- Days since 1970-01-01. -/
def toDays (date : Date) : Int :=
  let inEarlierMonths : Nat := ((monthLengths date.year).take (date.month - 1)).foldr (· + ·) 0
  daysBefore date.year + inEarlierMonths + date.day - 1 - epochDay

def ofDays (days : Int) : Date :=
  let day := days + epochDay
  let year := yearOf day
  let (month, dayOfMonth) := monthOf 1 (day - daysBefore year).toNat (monthLengths year)
  ⟨year, month, dayOfMonth⟩

example : toDays ⟨2024, 2, 29⟩ = 19782 := by decide

example : ofDays 19782 = ⟨2024, 2, 29⟩ := by decide

end Date

end Tenancy.Calendar
