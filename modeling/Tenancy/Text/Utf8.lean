/-! Bytes read as UTF-8. One scan marks each stretch of bytes that belongs to no character; strict
reading refuses such a stretch and lenient reading puts one replacement character in its place. -/

namespace Tenancy.Text.Utf8

/-- Where a scan stands between two bytes. Inside a character it keeps the bits read so far, the
continuation bytes still owed, and the bounds of the next one. -/
inductive State where
  | between
  | inside (bits owed low high : Nat)

/-- What a byte does at the start of a character: it is one, begins one, or fits nowhere. -/
inductive Opening where
  | complete (character : Char)
  | opens (state : State)
  | stray

def opening (byte : Nat) : Opening :=
  if byte < 0x80 then .complete (Char.ofNat byte)
  else if byte < 0xC2 then .stray
  else if byte < 0xE0 then .opens (.inside (byte % 32) 1 0x80 0xBF)
  else if byte == 0xE0 then .opens (.inside 0 2 0xA0 0xBF)
  else if byte == 0xED then .opens (.inside 13 2 0x80 0x9F)
  else if byte < 0xF0 then .opens (.inside (byte % 16) 2 0x80 0xBF)
  else if byte == 0xF0 then .opens (.inside 0 3 0x90 0xBF)
  else if byte < 0xF4 then .opens (.inside (byte % 8) 3 0x80 0xBF)
  else if byte == 0xF4 then .opens (.inside 4 3 0x80 0x8F)
  else .stray

/-- The marks a byte adds at the start of a character, and the state it leaves. -/
def start (byte : Nat) : List (Option Char) × State :=
  match opening byte with
  | .complete character => ([some character], .between)
  | .opens state => ([], state)
  | .stray => ([none], .between)

/-- One mark per character, and `none` for each longest stretch that could still have begun one.
A byte that breaks off a character is looked at again as the start of the next. -/
def scanFrom (state : State) : List UInt8 → List (Option Char)
  | [] =>
      match state with
      | .between => []
      | .inside .. => [none]
  | byte :: rest =>
      let value := byte.toNat
      match state with
      | .between => (start value).1 ++ scanFrom (start value).2 rest
      | .inside bits owed low high =>
          if low ≤ value && value ≤ high then
            let extended := bits * 64 + value % 64
            if owed == 1 then some (Char.ofNat extended) :: scanFrom .between rest
            else scanFrom (.inside extended (owed - 1) 0x80 0xBF) rest
          else none :: ((start value).1 ++ scanFrom (start value).2 rest)

def scan (bytes : List UInt8) : List (Option Char) :=
  scanFrom .between bytes

def decode? (bytes : List UInt8) : Option (List Char) :=
  (scan bytes).mapM id

def replacement : Char := Char.ofNat 0xFFFD

def decodeLenient (bytes : List UInt8) : List Char :=
  (scan bytes).map (·.getD replacement)

def encode (text : List Char) : List UInt8 :=
  text.flatMap String.utf8EncodeChar

example : decode? [0xC3, 0xA9, 0x78] = some ['é', 'x'] := by decide

example : decodeLenient [0xE2, 0x82, 0x41] = [replacement, 'A'] := by decide

end Tenancy.Text.Utf8
