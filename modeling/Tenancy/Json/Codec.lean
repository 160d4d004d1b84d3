import Tenancy.Json.Reader
import Tenancy.Json.Writer

/-! A wire form: how the values of a type are written and how they are read back. -/

namespace Tenancy.Json

structure Codec (α : Type) where
  write : α → List Char
  read : Reader α

namespace Codec

def encode (codec : Codec α) (value : α) : String :=
  .ofList (codec.write value)

def decode (codec : Codec α) (text : String) : Except Fault α :=
  readAll codec.read text.toList

/-- Reading what was written gives the value back, whatever follows it. -/
def Faithful (codec : Codec α) : Prop :=
  ∀ value rest, codec.read (codec.write value ++ rest) = .ok (value, rest)

def list (codec : Codec α) : Codec (List α) where
  write values := writeArray (values.map codec.write)
  read := readArray codec.read

end Codec

end Tenancy.Json
