/-! Media types as they stand in a Content-Type header, read as far as telling JSON from the rest. -/

namespace Tenancy.Http.MediaType

def isToken (character : Char) : Bool :=
  character.isAlphanum || "!#$%&'+-.^_`|~".toList.contains character

def isQuotable (character : Char) : Bool :=
  ' ' ≤ character && character.toNat != 127

/-! ## Parameters

`unset` tells that nothing of the name or the value has been read yet. -/

inductive Place where
  | name (unset : Bool)
  | value (unset : Bool)
  | quoted (unset : Bool)
  | afterQuote

namespace Place

def advance? : Place → Char → Option Place
  | name true, ' ' => some (name true)
  | name false, '=' => some (value true)
  | name _, character => if isToken character then some (name false) else none
  | value true, '"' => some (quoted true)
  | value false, ';' => some (name true)
  | value _, character => if isToken character then some (value false) else none
  | quoted false, '"' => some afterQuote
  | quoted _, character => if isQuotable character then some (quoted false) else none
  | afterQuote, ';' => some (name true)
  | afterQuote, ' ' => some afterQuote
  | afterQuote, _ => none

def mayEnd : Place → Bool
  | name unset => unset
  | value _ | afterQuote => true
  | quoted _ => false

end Place

/-- The text after a semicolon is a list of parameters, perhaps an empty one. -/
def areParameters (place : Place) : List Char → Bool
  | [] => place.mayEnd
  | character :: rest =>
      match place.advance? character with
      | some place => areParameters place rest
      | none => false

/-! ## Types -/

structure Parts where
  type : List Char
  /-- Up to the last plus sign, if there is one. -/
  subtype : List Char
  suffix : Option (List Char)
  deriving DecidableEq

/-- A plus sign divides the subtype from its suffix unless it stands first. -/
def splitSuffix (subtype : List Char) : List Char × Option (List Char) :=
  match subtype.reverse.span (· != '+') with
  | (_, []) | (_, [_]) => (subtype, none)
  | (suffix, _ :: before) => (before.reverse, some suffix.reverse)

def parse? (text : List Char) : Option Parts :=
  match text.span (· != '/') with
  | (_, []) => none
  | (type, _ :: rest) =>
      let (subtype, parameters) := rest.span (· != ';')
      let parametersHold := match parameters with
        | [] => true
        | _ :: parameters => !subtype.isEmpty && areParameters (.name true) parameters
      if !type.isEmpty && type.all isToken && subtype.all isToken && parametersHold then
        let (subtype, suffix) := splitSuffix subtype
        some ⟨type.map Char.toLower, subtype.map Char.toLower,
          suffix.map fun suffix => suffix.map Char.toLower⟩
      else none

/-- JSON itself, or a type whose suffix says that it is written in JSON. -/
def isJson (text : List Char) : Bool :=
  match parse? text with
  | none => false
  | some parts =>
      parts.type == "application".toList &&
        (parts.subtype == "json".toList || parts.suffix == some "json".toList)

example : isJson "application/vnd.api+json; a=\"b\"".toList = true := by decide

example : isJson "text/json".toList = false := by decide

end Tenancy.Http.MediaType
