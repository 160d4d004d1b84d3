/-! The SHA-256 digest of FIPS 180-4, on lists of bytes. -/

namespace Tenancy.Sha256

/-! ## Words -/

/-- Four bytes as a word, the highest first. -/
def word (bytes : List UInt8) : UInt32 :=
  bytes.foldl (fun value byte => (value <<< 8) ||| byte.toUInt32) 0

def wordBytes (value : UInt32) : List UInt8 :=
  [(value >>> 24).toUInt8, (value >>> 16).toUInt8, (value >>> 8).toUInt8, value.toUInt8]

def rotate (value count : UInt32) : UInt32 :=
  (value >>> count) ||| (value <<< (32 - count))

def bigSigma0 (value : UInt32) : UInt32 := rotate value 2 ^^^ rotate value 13 ^^^ rotate value 22

def bigSigma1 (value : UInt32) : UInt32 := rotate value 6 ^^^ rotate value 11 ^^^ rotate value 25

def smallSigma0 (value : UInt32) : UInt32 := rotate value 7 ^^^ rotate value 18 ^^^ (value >>> 3)

def smallSigma1 (value : UInt32) : UInt32 := rotate value 17 ^^^ rotate value 19 ^^^ (value >>> 10)

/-- Bits of the second word where the first has ones, of the third where it has zeros. -/
def choose (x y z : UInt32) : UInt32 := (x &&& y) ^^^ (~~~x &&& z)

def majority (x y z : UInt32) : UInt32 := (x &&& y) ^^^ (x &&& z) ^^^ (y &&& z)

def roundConstants : List UInt32 := [
  0x428a2f98, 0x71374491, 0xb5c0fbcf, 0xe9b5dba5, 0x3956c25b, 0x59f111f1, 0x923f82a4, 0xab1c5ed5,
  0xd807aa98, 0x12835b01, 0x243185be, 0x550c7dc3, 0x72be5d74, 0x80deb1fe, 0x9bdc06a7, 0xc19bf174,
  0xe49b69c1, 0xefbe4786, 0x0fc19dc6, 0x240ca1cc, 0x2de92c6f, 0x4a7484aa, 0x5cb0a9dc, 0x76f988da,
  0x983e5152, 0xa831c66d, 0xb00327c8, 0xbf597fc7, 0xc6e00bf3, 0xd5a79147, 0x06ca6351, 0x14292967,
  0x27b70a85, 0x2e1b2138, 0x4d2c6dfc, 0x53380d13, 0x650a7354, 0x766a0abb, 0x81c2c92e, 0x92722c85,
  0xa2bfe8a1, 0xa81a664b, 0xc24b8b70, 0xc76c51a3, 0xd192e819, 0xd6990624, 0xf40e3585, 0x106aa070,
  0x19a4c116, 0x1e376c08, 0x2748774c, 0x34b0bcb5, 0x391c0cb3, 0x4ed8aa4a, 0x5b9cca4f, 0x682e6ff3,
  0x748f82ee, 0x78a5636f, 0x84c87814, 0x8cc70208, 0x90befffa, 0xa4506ceb, 0xbef9a3f7, 0xc67178f2]

/-! ## Padding and blocks -/

def blockSize : Nat := 64

/-- A one bit, zeros up to eight bytes short of a whole block, and the length in bits. -/
def padding (length : Nat) : List UInt8 :=
  let zeros := (blockSize - (length + 9) % blockSize) % blockSize
  let bits : UInt64 := .ofNat (8 * length)
  0x80 :: (List.replicate zeros (0 : UInt8) ++ wordBytes (bits >>> 32).toUInt32 ++ wordBytes bits.toUInt32)

/-- Consecutive runs of a number of items, the last one shorter if need be. -/
def chunks (size : Nat) (items : List α) : List (List α) :=
  (List.range ((items.length + size - 1) / size)).map fun index =>
    (items.drop (index * size)).take size

/-! ## Compression -/

/-- The message schedule is kept with its latest word first. -/
def nextWord (latest : List UInt32) : UInt32 :=
  smallSigma1 (latest.getD 1 0) + latest.getD 6 0 + smallSigma0 (latest.getD 14 0) +
    latest.getD 15 0

def extendSchedule : Nat → List UInt32 → List UInt32
  | 0, latest => latest
  | count + 1, latest => extendSchedule count (nextWord latest :: latest)

def schedule (block : List UInt8) : List UInt32 :=
  (extendSchedule 48 ((chunks 4 block).map word).reverse).reverse

structure State where
  a : UInt32
  b : UInt32
  c : UInt32
  d : UInt32
  e : UInt32
  f : UInt32
  g : UInt32
  h : UInt32
  deriving DecidableEq, Repr

namespace State

def start : State :=
  ⟨0x6a09e667, 0xbb67ae85, 0x3c6ef372, 0xa54ff53a, 0x510e527f, 0x9b05688c, 0x1f83d9ab, 0x5be0cd19⟩

def round (state : State) (constant scheduled : UInt32) : State :=
  let first := state.h + bigSigma1 state.e + choose state.e state.f state.g + constant + scheduled
  let second := bigSigma0 state.a + majority state.a state.b state.c
  ⟨first + second, state.a, state.b, state.c, state.d + first, state.e, state.f, state.g⟩

def add (left right : State) : State :=
  ⟨left.a + right.a, left.b + right.b, left.c + right.c, left.d + right.d,
    left.e + right.e, left.f + right.f, left.g + right.g, left.h + right.h⟩

def compress (state : State) (block : List UInt8) : State :=
  state.add ((roundConstants.zip (schedule block)).foldl
    (fun state (constant, scheduled) => state.round constant scheduled) state)

def bytes (state : State) : List UInt8 :=
  [state.a, state.b, state.c, state.d, state.e, state.f, state.g, state.h].flatMap wordBytes

end State

def digest (message : List UInt8) : List UInt8 :=
  ((chunks blockSize (message ++ padding message.length)).foldl State.compress .start).bytes

end Tenancy.Sha256
