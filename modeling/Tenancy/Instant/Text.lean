import Tenancy.Instant
import Tenancy.Text.Blank

/-! Instants as text in the style of RFC 3339. Writing keeps the fewest of 0, 3, 6 or 9 decimals
that lose nothing. Reading is lenient about white space between the parts, the number of digits and
the case of the letters, and takes any offset from UTC below a day. -/

namespace Tenancy.Instant

open Tenancy.Text

/-! ## Writing -/

def padded (width value : Nat) : List Char :=
  let digits := Nat.toDigits 10 value
  List.replicate (width - digits.length) '0' ++ digits

/-- Four digits for the years 0 to 9999; other years carry a sign and have at least four. -/
def writeYear (year : Int) : List Char :=
  if 0 ≤ year ∧ year ≤ 9999 then padded 4 year.toNat
  else (if year < 0 then '-' else '+') :: padded 4 year.natAbs

def writeFraction (nanos : Nat) : List Char :=
  if nanos = 0 then []
  else if nanos % 1000000 = 0 then '.' :: padded 3 (nanos / 1000000)
  else if nanos % 1000 = 0 then '.' :: padded 6 (nanos / 1000)
  else '.' :: padded 9 nanos

/-- A leap second is written as second 60. -/
def writeWith (zone : List Char) (instant : Instant) : List Char :=
  let date := Calendar.Date.ofDays (instant.seconds / 86400)
  let time := (instant.seconds % 86400).toNat
  let extra := instant.nanos / 1000000000
  writeYear date.year ++ '-' :: padded 2 date.month ++ '-' :: padded 2 date.day ++
    'T' :: padded 2 (time / 3600) ++ ':' :: padded 2 (time / 60 % 60) ++
    ':' :: padded 2 (time % 60 + extra) ++ writeFraction (instant.nanos % 1000000000) ++ zone

def write (instant : Instant) : List Char :=
  writeWith ['Z'] instant

/-- The form with a numeric offset. -/
def writeOffset (instant : Instant) : List Char :=
  writeWith ['+', '0', '0', ':', '0', '0'] instant

/-! ## Reading -/

/-- At most `limit` digits from the front of a text. -/
def spanDigits : Nat → List Char → List Char × List Char
  | 0, text => ([], text)
  | _, [] => ([], [])
  | limit + 1, character :: rest =>
      if character.isDigit then
        let (digits, after) := spanDigits limit rest
        (character :: digits, after)
      else ([], character :: rest)

def value (digits : List Char) : Nat :=
  digits.foldl (fun total digit => total * 10 + (digit.toNat - '0'.toNat)) 0

/-- White space, then one to `limit` digits. -/
def readNumber (limit : Nat) (text : List Char) : Option (Nat × List Char) :=
  let (digits, rest) := spanDigits limit (trimStart text)
  if digits.isEmpty then none else some (value digits, rest)

/-- A year with a sign may have any number of digits; one without has at most four. -/
def readYear (text : List Char) : Option (Int × List Char) :=
  match trimStart text with
  | '-' :: rest => signed rest (-1)
  | '+' :: rest => signed rest 1
  | text => (readNumber 4 text).map fun (year, rest) => ((year : Int), rest)
where
  signed (text : List Char) (sign : Int) : Option (Int × List Char) :=
    let (digits, rest) := spanDigits text.length text
    if digits.isEmpty then none else some (sign * value digits, rest)

/-- White space, then one fixed character. -/
def readMark (mark : Char) (text : List Char) : Option (List Char) :=
  match trimStart text with
  | character :: rest => if character == mark then some rest else none
  | [] => none

/-- Digits past the ninth are dropped. -/
def readFraction (text : List Char) : Option (Nat × List Char) :=
  match text with
  | '.' :: rest =>
      let (digits, after) := spanDigits 9 rest
      if digits.isEmpty then none
      else some (value digits * Nat.pow 10 (9 - digits.length), after.dropWhile Char.isDigit)
  | _ => some (0, text)

def isOffsetGap (character : Char) : Bool :=
  character == ':' || isBlank character

/-- Two digits of hours, any colons or white space, and two digits of minutes, in seconds. -/
def readOffsetClock (text : List Char) : Option (Int × List Char) := do
  let (hours, rest) ← exactDigits text
  let (minutes, rest) ← exactDigits (rest.dropWhile isOffsetGap)
  if minutes ≤ 59 then some (hours * 3600 + minutes * 60, rest) else none
where
  exactDigits (text : List Char) : Option (Nat × List Char) :=
    let (digits, rest) := spanDigits 2 text
    if digits.length = 2 then some (value digits, rest) else none

def isUtc (text : List Char) : Bool :=
  (text.take 3).map Char.toLower == ['u', 't', 'c']

/-- The offset from UTC in seconds; the true minus sign is read like a hyphen. -/
def readOffset (text : List Char) : Option (Int × List Char) :=
  if isUtc text then some (0, text.drop 3)
  else
    match text with
    | 'Z' :: rest | 'z' :: rest => some (0, rest)
    | '+' :: rest => readOffsetClock rest
    | '-' :: rest | '−' :: rest => (readOffsetClock rest).map fun (offset, rest) => (-offset, rest)
    | _ => none

def earliestYear : Int := -262143

def latestYear : Int := 262142

/-- Second 60 is the leap second after second 59. The local date must lie in the calendar's range,
and so must the instant. -/
def assemble (date : Calendar.Date) (hour minute second nanos : Nat) (offset : Int) :
    Option Instant :=
  if date.valid && earliestYear ≤ date.year && date.year ≤ latestYear && hour ≤ 23 &&
      minute ≤ 59 && second ≤ 60 && offset.natAbs < 86400 then
    let wholeSecond := min second 59
    let leap := (second - wholeSecond) * 1000000000
    ofParts? (date.toDays * 86400 + (hour * 3600 + minute * 60 + wholeSecond : Nat) - offset)
      (leap + nanos)
  else none

def read? (text : List Char) : Option Instant := do
  let (year, text) ← readYear text
  let (month, text) ← readNumber 2 (← readMark '-' text)
  let (day, text) ← readNumber 2 (← readMark '-' text)
  let text ← separator text
  let (hour, text) ← readNumber 2 text
  let (minute, text) ← readNumber 2 (← readMark ':' text)
  let (second, text) ← readNumber 2 (← readMark ':' text)
  let (nanos, text) ← readFraction text
  let (offset, text) ← readOffset (trimStart text)
  if (trimStart text).isEmpty then assemble ⟨year, month, day⟩ hour minute second nanos offset
  else none
where
  separator : List Char → Option (List Char)
    | 'T' :: rest | 't' :: rest | ' ' :: rest => some rest
    | _ => none

example : (read? "2024-12-31T23:30:00-01:00".toList).map write =
    some "2025-01-01T00:30:00Z".toList := by decide

end Tenancy.Instant
