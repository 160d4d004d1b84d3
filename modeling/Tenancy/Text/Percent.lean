import Tenancy.Text.Utf8

/-! Percent escapes in paths and query strings. An escape without two hexadecimal digits stands for
itself. -/

namespace Tenancy.Text

def hexDigit? (character : Char) : Option Nat :=
  if '0' ≤ character ∧ character ≤ '9' then some (character.toNat - '0'.toNat)
  else if 'a' ≤ character ∧ character ≤ 'f' then some (character.toNat - 'a'.toNat + 10)
  else if 'A' ≤ character ∧ character ≤ 'F' then some (character.toNat - 'A'.toNat + 10)
  else none

namespace Percent

/-- The byte of an escape at the front of a text. -/
def escape? : List Char → Option UInt8
  | '%' :: high :: low :: _ =>
      match hexDigit? high, hexDigit? low with
      | some high, some low => some (.ofNat (high * 16 + low))
      | _, _ => none
  | _ => none

/-- After an escape its two digits are skipped. -/
def decodeSkipping : Nat → List Char → List UInt8
  | _, [] => []
  | skip + 1, _ :: rest => decodeSkipping skip rest
  | 0, character :: rest =>
      match escape? (character :: rest) with
      | some byte => byte :: decodeSkipping 2 rest
      | none => String.utf8EncodeChar character ++ decodeSkipping 0 rest

def decode (text : List Char) : List UInt8 :=
  decodeSkipping 0 text

/-- A path segment must be UTF-8 once decoded. -/
def decodeStrict? (text : List Char) : Option (List Char) :=
  Utf8.decode? (decode text)

end Percent

/-! Form encoding: pairs separated by ampersands, each cut at its first equals sign, with a plus
sign for a space. -/

namespace Form

def decodePart (part : List Char) : String :=
  let spaced := part.map fun character => if character == '+' then ' ' else character
  .ofList (Utf8.decodeLenient (Percent.decode spaced))

def pair (part : List Char) : String × String :=
  (decodePart (part.takeWhile (· != '=')), decodePart ((part.dropWhile (· != '=')).drop 1))

/-- Empty parts are passed over. -/
def pairs (query : List Char) : List (String × String) :=
  ((query.splitOn '&').filter (!·.isEmpty)).map pair

end Form

end Tenancy.Text
