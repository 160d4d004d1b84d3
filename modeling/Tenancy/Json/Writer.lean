import Tenancy.Json.Token
import Tenancy.Text.Decimal

/-! Compact JSON text: no white space, and members in the order given. -/

namespace Tenancy.Json

def writeInteger (value : Int) : List Char :=
  Tenancy.Text.Decimal.write value

def writeBool : Bool → List Char
  | true => ['t', 'r', 'u', 'e']
  | false => ['f', 'a', 'l', 's', 'e']

def writeNull : List Char := ['n', 'u', 'l', 'l']

def writeOptional (writer : α → List Char) : Option α → List Char
  | some value => writer value
  | none => writeNull

/-- Parts separated by commas. -/
def joined : List (List Char) → List Char
  | [] => []
  | [part] => part
  | part :: parts => part ++ ',' :: joined parts

def writeArray (items : List (List Char)) : List Char :=
  '[' :: (joined items ++ [']'])

def writeMember (member : String × List Char) : List Char :=
  writeString member.1 ++ ':' :: member.2

def writeObject (members : List (String × List Char)) : List Char :=
  '\x7b' :: (joined (members.map writeMember) ++ ['\x7d'])

example : writeObject [("a", writeInteger 1), ("b", writeNull)] =
    "\x7b\"a\":1,\"b\":null\x7d".toList := by decide

end Tenancy.Json
