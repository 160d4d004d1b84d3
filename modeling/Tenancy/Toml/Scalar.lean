import Tenancy.Calendar
import Tenancy.Toml.Lexical
import Tenancy.Toml.Tree

/-! Numbers, and dates and times. Only whole numbers keep their value; the others are checked and
told apart. -/

namespace Tenancy.Toml

open Tenancy.Text

/-! ## Digits -/

/-- Digits, with single underscores between them. -/
def digitRun (isDigit : Char → Bool) : List Char → List Char × List Char
  | '_' :: digit :: rest =>
      if isDigit digit then
        let (digits, rest) := digitRun isDigit rest
        (digit :: digits, rest)
      else ([], '_' :: digit :: rest)
  | character :: rest =>
      if isDigit character then
        let (digits, rest) := digitRun isDigit rest
        (character :: digits, rest)
      else ([], character :: rest)
  | [] => ([], [])

/-- A run that starts with a digit. -/
def readDigits (isDigit : Char → Bool) : Reader (List Char)
  | [] => none
  | first :: rest => if isDigit first then some (digitRun isDigit (first :: rest)) else none

/-- A number in decimal does not start with a zero unless it is zero. -/
def readWhole : Reader (List Char)
  | '0' :: rest => some (['0'], rest)
  | text => readDigits Char.isDigit text

def naturalOf (base : Nat) (digits : List Char) : Nat :=
  digits.foldl (fun value digit => value * base + (hexDigit? digit).getD 0) 0

/-! ## Numbers -/

def int64? (value : Int) : Option Item :=
  if Int64.minValue.toInt ≤ value ∧ value ≤ Int64.maxValue.toInt then some (.integer value) else none

def readBased (base : Nat) (isDigit : Char → Bool) : Reader Item := fun text => do
  let (digits, rest) ← readDigits isDigit text
  let item ← int64? (naturalOf base digits)
  some (item, rest)

def readSign : List Char → Bool × List Char
  | '+' :: rest => (false, rest)
  | '-' :: rest => (true, rest)
  | text => (false, text)

/-- An exponent, once its letter is taken off. -/
def readExponent (text : List Char) : Option (List Char) :=
  (readDigits Char.isDigit (readSign text).2).map (·.2)

/-- What makes a number a fraction: digits after a dot, an exponent, or both. -/
def fraction? (text : List Char) : Option (Option (List Char)) :=
  match text with
  | '.' :: rest =>
      match readDigits Char.isDigit rest with
      | none => some none
      | some (_, 'e' :: rest) | some (_, 'E' :: rest) => some (readExponent rest)
      | some (_, rest) => some (some rest)
  | 'e' :: rest | 'E' :: rest => some (readExponent rest)
  | _ => none

def startsWith? (word : String) (text : List Char) : Option (List Char) :=
  if word.toList.isPrefixOf text then some (text.drop word.length) else none

def readDecimal : Reader Item := fun text =>
  let (negative, unsigned) := readSign text
  match (startsWith? "inf" unsigned).or (startsWith? "nan" unsigned) with
  | some rest => some (.float, rest)
  | none => do
      let (digits, rest) ← readWhole unsigned
      match fraction? rest with
      | some after => after.map (Item.float, ·)
      | none =>
          let magnitude : Int := naturalOf 10 digits
          let item ← int64? (if negative then -magnitude else magnitude)
          some (item, rest)

def readNumber : Reader Item
  | '0' :: 'x' :: rest => readBased 16 (hexDigit? · |>.isSome) rest
  | '0' :: 'o' :: rest => readBased 8 (fun digit => '0' ≤ digit && digit ≤ '7') rest
  | '0' :: 'b' :: rest => readBased 2 (fun digit => digit == '0' || digit == '1') rest
  | text => readDecimal text

/-! ## Dates and times -/

/-- A number of exactly so many digits. -/
def readFixed (count : Nat) : Reader Nat := fun text =>
  let digits := text.take count
  if digits.length = count && digits.all Char.isDigit then
    some (naturalOf 10 digits, text.drop count)
  else none

def readMark (mark : Char) : List Char → Option (List Char)
  | character :: rest => if character == mark then some rest else none
  | [] => none

def skipDate? (text : List Char) : Option (List Char) := do
  let (year, rest) ← readFixed 4 text
  let (month, rest) ← readFixed 2 (← readMark '-' rest)
  let (day, rest) ← readFixed 2 (← readMark '-' rest)
  if 1 ≤ month ∧ month ≤ 12 ∧ 1 ≤ day ∧ day ≤ Calendar.monthLength year month then some rest
  else none

def skipClock? (text : List Char) : Option (List Char) := do
  let (hour, rest) ← readFixed 2 text
  let (minute, rest) ← readFixed 2 (← readMark ':' rest)
  if hour ≤ 23 ∧ minute ≤ 59 then some rest else none

def skipTime? (text : List Char) : Option (List Char) := do
  let rest ← skipClock? text
  let (second, rest) ← readFixed 2 (← readMark ':' rest)
  if 60 < second then none
  else
    match rest with
    | '.' :: digit :: after =>
        if digit.isDigit then some (after.dropWhile Char.isDigit) else some rest
    | _ => some rest

def skipOffset (text : List Char) : List Char :=
  match text with
  | 'Z' :: rest | 'z' :: rest => rest
  | '+' :: rest | '-' :: rest => (skipClock? rest).getD text
  | _ => text

/-- A date, and the time of day that may follow it. -/
def skipDateTime? (text : List Char) : Option (List Char) := do
  let rest ← skipDate? text
  let time := match rest with
    | 'T' :: after | 't' :: after | ' ' :: after => (skipTime? after).map skipOffset
    | _ => none
  some (time.getD rest)

def looksLikeDate (text : List Char) : Bool :=
  ((readFixed 4 text).bind fun (_, rest) => readMark '-' rest).isSome

def looksLikeTime (text : List Char) : Bool :=
  ((readFixed 2 text).bind fun (_, rest) => readMark ':' rest).isSome

def readNumberOrMoment : Reader Item := fun text =>
  if looksLikeDate text then (skipDateTime? text).map (Item.moment, ·)
  else if looksLikeTime text then (skipTime? text).map (Item.moment, ·)
  else readNumber text

end Tenancy.Toml
