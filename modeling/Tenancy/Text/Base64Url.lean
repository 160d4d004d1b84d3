/-! Bytes as text in the URL-safe alphabet of base 64, without padding. -/

namespace Tenancy.Text.Base64Url

def alphabet : List Char :=
  "ABCDEFGHIJKLMNOPQRSTUVWXYZabcdefghijklmnopqrstuvwxyz0123456789-_".toList

def letter (value : Nat) : Char :=
  alphabet.getD value 'A'

def value? (character : Char) : Option Nat :=
  alphabet.findIdx? (· == character)

/-! Three bytes make four letters. What is left over makes two letters for one byte and three for
two, with zeros in the bits that no byte fills. -/

def encode : List UInt8 → List Char
  | [] => []
  | [first] =>
      [letter (first.toNat / 4), letter (first.toNat % 4 * 16)]
  | [first, second] =>
      [letter (first.toNat / 4), letter (first.toNat % 4 * 16 + second.toNat / 16),
        letter (second.toNat % 16 * 4)]
  | first :: second :: third :: rest =>
      letter (first.toNat / 4) :: letter (first.toNat % 4 * 16 + second.toNat / 16) ::
        letter (second.toNat % 16 * 4 + third.toNat / 64) :: letter (third.toNat % 64) ::
        encode rest

/-- The bytes of a text that `encode` gives for them, and of no other text. -/
def decode? : List Char → Option (List UInt8)
  | [] => some []
  | [_] => none
  | [first, second] => do
      let first ← value? first
      let second ← value? second
      if second % 16 = 0 then some [.ofNat (first * 4 + second / 16)] else none
  | [first, second, third] => do
      let first ← value? first
      let second ← value? second
      let third ← value? third
      if third % 4 = 0 then
        some [.ofNat (first * 4 + second / 16), .ofNat (second % 16 * 16 + third / 4)]
      else none
  | first :: second :: third :: fourth :: rest => do
      let first ← value? first
      let second ← value? second
      let third ← value? third
      let fourth ← value? fourth
      let bytes ← decode? rest
      some (.ofNat (first * 4 + second / 16) :: .ofNat (second % 16 * 16 + third / 4) ::
        .ofNat (third % 4 * 64 + fourth) :: bytes)

example : encode [0xFB, 0xEF] = ['-', '-', '8'] := by decide

example : decode? ['-', '-', '9'] = none := by decide

end Tenancy.Text.Base64Url
