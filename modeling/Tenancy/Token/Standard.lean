import Tenancy.Json.Kept
import Tenancy.Token.Reading

/-! The rules of the standards for the parts of a token that are never used. -/

namespace Tenancy.Token.Standard

open Tenancy.Json

/-- How deep a member of a token may be nested. -/
def depth : Nat := 126

/-! ## Keys -/

/-- What a key of one kind has to say about itself. -/
def parameters : List (String × List String) :=
  [("EC", ["crv", "x", "y"]), ("RSA", ["n", "e"]), ("oct", ["k"]), ("OKP", ["crv", "x"])]

def curves : List String := ["P-256", "P-384", "P-521", "Ed25519"]

/-- The kind of a key, and the parameters that it has. -/
structure PartialKey where
  kind : Option String
  given : List String

def parameter (name : String) (reader : Reader String) : Json.Field PartialKey where
  key := name
  taken state := name ∈ state.given
  read state text := do
    let (_, rest) ← reader text
    pure ({ state with given := name :: state.given }, rest)

def keyShape : Shape PartialKey Unit where
  blank := ⟨none, []⟩
  fields := [
    .of "kty" (·.kind) (fun state value => { state with kind := some value }) readString,
    parameter "crv" (readVia fun curve => if curve ∈ curves then some curve else none),
    parameter "x" readString, parameter "y" readString, parameter "n" readString,
    parameter "e" readString, parameter "k" readString]
  finish state := do
    let needed ← parameters.lookup (← state.kind)
    if needed.all (· ∈ state.given) then some () else none

/-- A key is an object that is kept as a whole, and has the parameters of its kind. -/
def readKey : Reader Unit := fun text => do
  let _ ← readKept depth text
  match skipSpace text with
  | '\x7b' :: _ => keyShape.read text
  | other => .error (wrongKind other)

/-! ## Registered claims -/

/-- The audience of a value that is well formed. -/
def audienceOf (text : List Char) : Audience :=
  match readString text with
  | .ok _ => .one
  | .error _ =>
      match readArray readString text with
      | .ok (names, _) => .several names.length
      | .error _ => .unclear

/-- An exponent is given up as too great once it passes 2147483647. Where that is before its last
digit, the rest of it is no JSON. -/
def givesUp (number : NumberText) : Bool :=
  match number.exponent with
  | some exponent =>
      (number.whole ++ number.fraction.getD []).any (· != '0') && 21474836480 ≤ exponent
  | none => false

/-- A number that is too great is no fault unless it is given up. -/
def readScalar : Reader Unit := fun text =>
  match scanNumber text with
  | some (number, rest) => if givesUp number then .error .malformed else .ok ((), rest)
  | none => skipValue text

def readMember : Reader Unit := fun text =>
  match skipSpace text with
  | '[' :: _ | '\x7b' :: _ | '"' :: _ => readKept depth text
  | other => readScalar other

def readAudienceMember : Reader Audience := fun text => do
  let ((), rest) ← readMember text
  pure (audienceOf text, rest)

/-- A list or record with something in it is not even passed over. -/
def readTime : Reader Unit := fun text =>
  match skipSpace text with
  | '[' :: rest => (closeItems rest).map ((), ·)
  | '\x7b' :: rest => (Shape.closeMembers rest).map ((), ·)
  | '"' :: rest => checking readString ('"' :: rest)
  | other => readScalar other

structure Additions where
  audience : Option Audience
  notBefore : Option Unit
  issuer : Option Unit

def additionsShape : Shape Additions (Option Audience) where
  blank := ⟨none, none, none⟩
  fields := [
    .of "aud" (·.audience) (fun state value => { state with audience := some value })
      readAudienceMember,
    .of "nbf" (·.notBefore) (fun state value => { state with notBefore := some value }) readTime,
    .of "iss" (·.issuer) (fun state value => { state with issuer := some value }) readMember]
  finish state := some state.audience

def readAudience (bytes : List UInt8) : Except Json.Fault (Option Audience) :=
  readAll additionsShape.read (textOf bytes)

end Tenancy.Token.Standard
