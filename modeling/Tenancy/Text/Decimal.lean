/-! Whole numbers as decimal text. Reading names the first thing wrong with a text, since callers
report it. -/

namespace Tenancy.Text

inductive DecimalFault where
  | empty
  | invalidDigit
  | tooLarge
  | tooSmall
  deriving DecidableEq, Repr

namespace DecimalFault

def message : DecimalFault → String
  | .empty => "cannot parse integer from empty string"
  | .invalidDigit => "invalid digit found in string"
  | .tooLarge => "number too large to fit in target type"
  | .tooSmall => "number too small to fit in target type"

end DecimalFault

namespace Decimal

def digit? (character : Char) : Option Nat :=
  if '0' ≤ character ∧ character ≤ '9' then some (character.toNat - '0'.toNat) else none

/-- Digits are taken from the left, and the first one that is no digit or takes the value over the
limit decides the fault. -/
def readMagnitude (limit : Nat) (excess : DecimalFault) (value : Nat) :
    List Char → Except DecimalFault Nat
  | [] => .ok value
  | character :: rest =>
      match digit? character with
      | none => .error .invalidDigit
      | some digit =>
          let extended := value * 10 + digit
          if limit < extended then .error excess else readMagnitude limit excess extended rest

/-- At least one digit is needed after a sign. -/
def readDigits (limit : Nat) (excess : DecimalFault) : List Char → Except DecimalFault Nat
  | [] => .error .invalidDigit
  | digits => readMagnitude limit excess 0 digits

/-- A whole number from `low` to `high`, with an optional sign. The minus sign is a digit out of
place where no number is negative. -/
def read (low high : Int) : List Char → Except DecimalFault Int
  | [] => .error .empty
  | '+' :: digits => (readDigits high.toNat .tooLarge digits).map Int.ofNat
  | '-' :: digits =>
      if low < 0 then (readDigits (-low).toNat .tooSmall digits).map fun magnitude => -(magnitude : Int)
      else .error .invalidDigit
  | digits => (readMagnitude high.toNat .tooLarge 0 digits).map Int.ofNat

def write : Int → List Char
  | .ofNat value => Nat.toDigits 10 value
  | .negSucc value => '-' :: Nat.toDigits 10 (value + 1)

example : read (-128) 127 ['-', '1', '2', '8'] = .ok (-128) := rfl

example : read 0 255 ['2', '5', '6', 'x'] = .error .tooLarge := rfl

end Decimal

/-! The widths that texts are read into. -/

def readInt64 (text : String) : Except DecimalFault Int64 :=
  (Decimal.read Int64.minValue.toInt Int64.maxValue.toInt text.toList).map Int64.ofInt

def readUInt64 (text : String) : Except DecimalFault UInt64 :=
  (Decimal.read 0 (UInt64.size - 1 : Nat) text.toList).map fun value => .ofNat value.toNat

def readUInt32 (text : String) : Except DecimalFault UInt32 :=
  (Decimal.read 0 (UInt32.size - 1 : Nat) text.toList).map fun value => .ofNat value.toNat

def readUInt16 (text : String) : Except DecimalFault UInt16 :=
  (Decimal.read 0 (UInt16.size - 1 : Nat) text.toList).map fun value => .ofNat value.toNat

def decimal (value : Int) : String :=
  .ofList (Decimal.write value)

end Tenancy.Text
