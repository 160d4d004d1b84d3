import Tenancy.Text.Blank

/-! What requests may ask for: names that are RFC 1123 labels, and pages within bounds. -/

namespace Tenancy

open Tenancy.Text

inductive ValidationFault where
  | blank (field : String)
  | nameTooLong
  | nameCharacters
  | pageNumber
  | pageSize
  | pageTooLarge (limit : UInt32)
  deriving DecidableEq, Repr

/-- A name has at most 63 bytes. -/
def maxNameLength : Nat := 63

namespace ValidationFault

def message : ValidationFault → String
  | .blank field => field ++ " cannot be empty"
  | .nameTooLong => "namespace too long (max " ++ toString maxNameLength ++ " characters)"
  | .nameCharacters =>
      "namespace must consist of lower case alphanumeric characters or '-', " ++
        "and must start and end with an alphanumeric character"
  | .pageNumber => "pageNo must be at least 1"
  | .pageSize => "pageSize must be at least 1"
  | .pageTooLarge limit => "pageSize must not exceed " ++ toString limit.toNat

end ValidationFault

def requireNonBlank (field value : String) : Except ValidationFault Unit :=
  if blank value then .error (.blank field) else .ok ()

/-! ## Names -/

namespace Name

def isOuter (character : Char) : Bool :=
  ('a' ≤ character && character ≤ 'z') || ('0' ≤ character && character ≤ '9')

def isInner (character : Char) : Bool :=
  isOuter character || character == '-'

/-- Inner characters up to an outer one that ends the text. -/
def endsOuter : List Char → Bool
  | [] => false
  | [last] => isOuter last
  | character :: rest => isInner character && endsOuter rest

/-- One outer character, alone or followed by inner ones and a last outer one. -/
def fitsPattern : List Char → Bool
  | [] => false
  | first :: rest => isOuter first && (rest.isEmpty || endsOuter rest)

def check (name : String) : Except ValidationFault Unit :=
  match requireNonBlank "namespace" name with
  | .error fault => .error fault
  | .ok () =>
      if maxNameLength < byteLength name then .error .nameTooLong
      else if fitsPattern name.toList then .ok ()
      else .error .nameCharacters

/-- The labels of RFC 1123, restricted to lower case. -/
structure IsLabel (name : String) : Prop where
  nonempty : 1 ≤ byteLength name
  short : byteLength name ≤ maxNameLength
  characters : ∀ character ∈ name.toList,
    ('a' ≤ character ∧ character ≤ 'z') ∨ ('0' ≤ character ∧ character ≤ '9') ∨ character = '-'
  first : name.toList.head? ≠ some '-'
  last : name.toList.getLast? ≠ some '-'

end Name

/-! ## Pages -/

def checkPage (number size limit : UInt32) : Except ValidationFault Unit :=
  if number < 1 then .error .pageNumber
  else if size < 1 then .error .pageSize
  else if limit < size then .error (.pageTooLarge limit)
  else .ok ()

/-- One page of a listing. `total` counts the items of all pages. -/
structure Page (α : Type) where
  items : List α
  total : UInt64
  number : UInt32
  size : UInt32
  deriving DecidableEq

end Tenancy
