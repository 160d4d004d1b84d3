import Tenancy.Json.Codec

/-! The header of a token. Of all it may say only the algorithm counts, but the rest must have the
right shape. -/

namespace Tenancy

inductive Algorithm where
  | hs256
  | hs384
  | hs512
  | es256
  | es384
  | rs256
  | rs384
  | rs512
  | ps256
  | ps384
  | ps512
  | edDsa
  deriving DecidableEq, Repr

namespace Algorithm

def name : Algorithm → String
  | hs256 => "HS256"
  | hs384 => "HS384"
  | hs512 => "HS512"
  | es256 => "ES256"
  | es384 => "ES384"
  | rs256 => "RS256"
  | rs384 => "RS384"
  | rs512 => "RS512"
  | ps256 => "PS256"
  | ps384 => "PS384"
  | ps512 => "PS512"
  | edDsa => "EdDSA"

def all : List Algorithm :=
  [hs256, hs384, hs512, es256, es384, rs256, rs384, rs512, ps256, ps384, ps512, edDsa]

def ofName? (name : String) : Option Algorithm :=
  all.find? (·.name == name)

end Algorithm

namespace TokenHeader

open Tenancy.Json

def readAlgorithmName (text : List Char) : Except Fault (Algorithm × List Char) := do
  let (characters, rest) ← readChars text
  match Algorithm.ofName? (.ofList characters) with
  | some algorithm => pure (algorithm, rest)
  | none => .error .mismatched

/-- Like every choice among names, an algorithm may also be given as the only key of an object. -/
def readAlgorithm : Reader Algorithm := fun text =>
  match skipSpace text with
  | '"' :: rest => readAlgorithmName rest
  | '\x7b' :: rest =>
      match skipSpace rest with
      | '"' :: rest => do
          let (algorithm, rest) ← readAlgorithmName rest
          let (_, rest) ← readNull (← Shape.readColon rest)
          pure (algorithm, ← Shape.closeMembers rest)
      | other => .error (wrongKind other)
  | other => .error (wrongKind other)

structure PartialHeader where
  type : Option (Option String)
  algorithm : Option Algorithm
  contentType : Option (Option String)
  keySetAddress : Option (Option String)
  key : Option (Option Unit)
  keyId : Option (Option String)
  certificateAddress : Option (Option String)
  certificates : Option (Option (List String))
  thumbprint : Option (Option String)
  thumbprint256 : Option (Option String)

/-- A key carried in a header is never used, but it has to be one. -/
def shape (readKey : Reader Unit) : Shape PartialHeader Algorithm where
  blank := ⟨none, none, none, none, none, none, none, none, none, none⟩
  fields := [
    .of "typ" (·.type) (fun state value => { state with type := some value })
      (readOptional readString),
    .of "alg" (·.algorithm) (fun state value => { state with algorithm := some value })
      readAlgorithm,
    .of "cty" (·.contentType) (fun state value => { state with contentType := some value })
      (readOptional readString),
    .of "jku" (·.keySetAddress) (fun state value => { state with keySetAddress := some value })
      (readOptional readString),
    .of "jwk" (·.key) (fun state value => { state with key := some value })
      (readOptional readKey),
    .of "kid" (·.keyId) (fun state value => { state with keyId := some value })
      (readOptional readString),
    .of "x5u" (·.certificateAddress)
      (fun state value => { state with certificateAddress := some value })
      (readOptional readString),
    .of "x5c" (·.certificates) (fun state value => { state with certificates := some value })
      (readOptional (readArray readString)),
    .of "x5t" (·.thumbprint) (fun state value => { state with thumbprint := some value })
      (readOptional readString),
    .of "x5t#S256" (·.thumbprint256)
      (fun state value => { state with thumbprint256 := some value })
      (readOptional readString)]
  finish := (·.algorithm)

/-- The header of the tokens issued here. -/
def issued : List Char :=
  writeObject [("typ", writeString "JWT"), ("alg", writeString Algorithm.hs256.name)]

end TokenHeader

end Tenancy
