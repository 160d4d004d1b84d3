/-! White space as Unicode defines it, and the text that is left once it is trimmed away. -/

namespace Tenancy.Text

/-- The 25 characters with the property White_Space. -/
def isBlank (character : Char) : Bool :=
  let point := character.toNat
  (9 ≤ point && point ≤ 13) || point == 0x20 || point == 0x85 || point == 0xA0 ||
    point == 0x1680 || (0x2000 ≤ point && point ≤ 0x200A) || point == 0x2028 ||
    point == 0x2029 || point == 0x202F || point == 0x205F || point == 0x3000

def trimStart (text : List Char) : List Char :=
  text.dropWhile isBlank

def trimEnd (text : List Char) : List Char :=
  (text.reverse.dropWhile isBlank).reverse

def trim (text : List Char) : List Char :=
  trimEnd (trimStart text)

/-- A text of white space alone, the empty text included. -/
def blank (text : String) : Bool :=
  text.toList.all isBlank

/-- The length of a text is counted in bytes of UTF-8. -/
def byteLength (text : String) : Nat :=
  (text.toList.map Char.utf8Size).foldr (· + ·) 0

example : trim [' ', 'a', ' ', 'b', '\n'] = ['a', ' ', 'b'] := by decide

end Tenancy.Text
