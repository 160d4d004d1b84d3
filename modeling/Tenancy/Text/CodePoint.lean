import Tenancy.Text.Percent

/-! Characters given by their code points in hexadecimal. -/

namespace Tenancy.Text

def hexValue? (digits : List Char) : Option Nat :=
  digits.foldlM (fun value digit => (hexDigit? digit).map (value * 16 + ·)) 0

/-- The character of a code point, if it is one. -/
def scalar? (point : Nat) : Option Char :=
  if point.isValidChar then some (Char.ofNat point) else none

/-- Takes a code point of so many digits off the front of a text. -/
def readCodePoint (count : Nat) (text : List Char) : Option (Char × List Char) :=
  let digits := text.take count
  if digits.length = count then do
    let point ← hexValue? digits
    let character ← scalar? point
    some (character, text.drop count)
  else none

end Tenancy.Text
