import Tenancy.Text.Percent

/-! The words of JSON: white space, string literals and numbers. Texts are read from the left, and
each function returns what it read with the text that follows. -/

namespace Tenancy.Json

open Tenancy.Text

/-- Why a text is refused: it is no JSON, or it is JSON of another shape than was asked for. -/
inductive Fault where
  | malformed
  | mismatched
  deriving DecidableEq, Repr

def isSpace (character : Char) : Bool :=
  character == ' ' || character == '\n' || character == '\t' || character == '\r'

def skipSpace (text : List Char) : List Char :=
  text.dropWhile isSpace

/-! ## String literals -/

def simpleEscape? : Char → Option Char
  | '"' => some '"'
  | '\\' => some '\\'
  | '/' => some '/'
  | 'b' => some '\x08'
  | 'f' => some '\x0c'
  | 'n' => some '\n'
  | 'r' => some '\r'
  | 't' => some '\t'
  | _ => none

/-- The code unit of four hexadecimal digits. -/
def hexUnit? (first second third fourth : Char) : Option Nat := do
  let first ← hexDigit? first
  let second ← hexDigit? second
  let third ← hexDigit? third
  let fourth ← hexDigit? fourth
  some (first * 4096 + second * 256 + third * 16 + fourth)

def isHighSurrogate (unit : Nat) : Bool :=
  0xD800 ≤ unit && unit < 0xDC00

def isLowSurrogate (unit : Nat) : Bool :=
  0xDC00 ≤ unit && unit < 0xE000

def joinSurrogates (high low : Nat) : Char :=
  Char.ofNat (0x10000 + (high - 0xD800) * 0x400 + (low - 0xDC00))

/-- The characters of a literal whose opening quote has been read. Surrogates must come in pairs,
and control characters must be escaped. -/
def readChars : List Char → Except Fault (List Char × List Char)
  | '"' :: rest => .ok ([], rest)
  | '\\' :: 'u' :: first :: second :: third :: fourth :: rest =>
      match hexUnit? first second third fourth with
      | none => .error .malformed
      | some unit =>
          if isHighSurrogate unit then
            match rest with
            | '\\' :: 'u' :: fifth :: sixth :: seventh :: eighth :: after =>
                match hexUnit? fifth sixth seventh eighth with
                | none => .error .malformed
                | some low =>
                    if isLowSurrogate low then
                      (readChars after).map fun (characters, after) =>
                        (joinSurrogates unit low :: characters, after)
                    else .error .malformed
            | _ => .error .malformed
          else if isLowSurrogate unit then .error .malformed
          else (readChars rest).map fun (characters, after) => (Char.ofNat unit :: characters, after)
  | '\\' :: letter :: rest =>
      match simpleEscape? letter with
      | none => .error .malformed
      | some character => (readChars rest).map fun (characters, after) =>
          (character :: characters, after)
  | character :: rest =>
      if character.toNat < 0x20 then .error .malformed
      else (readChars rest).map fun (characters, after) => (character :: characters, after)
  | [] => .error .malformed

/-- Passes over a literal whose opening quote has been read. Unlike in a literal that is used,
surrogates may stand alone. -/
def skipChars : List Char → Option (List Char)
  | '"' :: rest => some rest
  | '\\' :: 'u' :: first :: second :: third :: fourth :: rest =>
      match hexUnit? first second third fourth with
      | none => none
      | some _ => skipChars rest
  | '\\' :: letter :: rest => if (simpleEscape? letter).isSome then skipChars rest else none
  | character :: rest => if character.toNat < 0x20 then none else skipChars rest
  | [] => none

/-! Writing escapes the quote, the backslash and the control characters, and nothing else. -/

def hexLetter (value : Nat) : Char :=
  if value < 10 then Char.ofNat (48 + value) else Char.ofNat (87 + value)

def escapeChar (character : Char) : List Char :=
  match character with
  | '"' => ['\\', '"']
  | '\\' => ['\\', '\\']
  | '\x08' => ['\\', 'b']
  | '\x0c' => ['\\', 'f']
  | '\n' => ['\\', 'n']
  | '\r' => ['\\', 'r']
  | '\t' => ['\\', 't']
  | _ =>
      if character.toNat < 0x20 then
        ['\\', 'u', '0', '0', hexLetter (character.toNat / 16), hexLetter (character.toNat % 16)]
      else [character]

def writeString (text : String) : List Char :=
  '"' :: (text.toList.flatMap escapeChar ++ ['"'])

/-! ## Numbers -/

/-- The parts of a number as written. The exponent is absent where none was written. -/
structure NumberText where
  negative : Bool
  whole : List Char
  fraction : Option (List Char)
  exponent : Option Int

/-- A number is a whole number from 0 to 2^64 - 1, a negative one down to -2^63, or something
else, which no field of a record takes. A negative zero is something else. -/
inductive Number where
  | natural (value : Nat)
  | negative (magnitude : Nat)
  | other
  deriving DecidableEq, Repr

def spanDigits (text : List Char) : List Char × List Char :=
  (text.takeWhile Char.isDigit, text.dropWhile Char.isDigit)

def digitsValue (digits : List Char) : Nat :=
  digits.foldl (fun total digit => total * 10 + (digit.toNat - 48)) 0

/-- A whole part has no leading zero. -/
def readWhole (text : List Char) : Option (List Char × List Char) :=
  match spanDigits text with
  | ([], _) => none
  | ('0' :: _ :: _, _) => none
  | (digits, rest) => some (digits, rest)

def readFraction (text : List Char) : Option (Option (List Char) × List Char) :=
  match text with
  | '.' :: rest =>
      match spanDigits rest with
      | ([], _) => none
      | (digits, after) => some (some digits, after)
  | _ => some (none, text)

def readExponent (text : List Char) : Option (Option Int × List Char) :=
  match text with
  | 'e' :: rest | 'E' :: rest =>
      let (sign, unsigned) : Int × List Char :=
        match rest with
        | '-' :: digits => (-1, digits)
        | '+' :: digits => (1, digits)
        | _ => (1, rest)
      match spanDigits unsigned with
      | ([], _) => none
      | (digits, after) => some (some (sign * digitsValue digits), after)
  | _ => some (none, text)

def scanNumber (text : List Char) : Option (NumberText × List Char) := do
  let (negative, unsigned) := match text with
    | '-' :: rest => (true, rest)
    | _ => (false, text)
  let (whole, rest) ← readWhole unsigned
  let (fraction, rest) ← readFraction rest
  let (exponent, rest) ← readExponent rest
  some (⟨negative, whole, fraction, exponent⟩, rest)

/-- The least magnitude that is nearer to 2^1024 than to any finite double. -/
def overflowLimit : Nat := 1 <<< 1024 - 1 <<< 970

/-- A number too great for a double is no number at all. Only one with exactly 309 digits before
its point needs to be compared. -/
def NumberText.overflows (number : NumberText) : Bool :=
  let significand := (number.whole ++ number.fraction.getD []).dropWhile (· == '0')
  let scale := number.exponent.getD 0 - ((number.fraction.getD []).length : Int)
  let order := (significand.length : Int) + scale
  if significand.isEmpty || order < 309 then false
  else if 309 < order then true
  else
    let value := digitsValue significand
    if 0 ≤ scale then overflowLimit ≤ value * Nat.pow 10 scale.toNat
    else overflowLimit * Nat.pow 10 (-scale).toNat ≤ value

def NumberText.classify (number : NumberText) : Except Fault Number :=
  let value := digitsValue number.whole
  if number.fraction.isNone && number.exponent.isNone && value < UInt64.size then
    if !number.negative then .ok (.natural value)
    else if value = 0 ∨ 1 <<< 63 < value then .ok .other
    else .ok (.negative value)
  else if number.overflows then .error .malformed
  else .ok .other

def readNumber (text : List Char) : Except Fault (Number × List Char) :=
  match scanNumber text with
  | none => .error .malformed
  | some (number, rest) => number.classify.map fun number => (number, rest)

end Tenancy.Json
