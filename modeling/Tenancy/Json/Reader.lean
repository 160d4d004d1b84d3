import Tenancy.Json.Token
import Tenancy.Text.Utf8

/-! Readers of JSON values of a known shape. A reader goes through its text once from the left and
stops at the first fault, so of two faults in one text the earlier decides. -/

namespace Tenancy.Json

open Tenancy.Text

abbrev Reader (α : Type) := List Char → Except Fault (α × List Char)

/-- The keyword must follow to its last letter. -/
def readKeyword (letters : String) (text : List Char) : Except Fault (List Char) :=
  if letters.toList.isPrefixOf text then .ok (text.drop letters.length) else .error .malformed

/-- The fault of a value whose kind is not the one asked for. A scalar is read to its end first; an
array or object is refused at its bracket. -/
def wrongKind (text : List Char) : Fault :=
  match text with
  | '[' :: _ | '\x7b' :: _ => .mismatched
  | '"' :: rest =>
      match readChars rest with
      | .ok _ => .mismatched
      | .error fault => fault
  | 'n' :: _ => keyword "null"
  | 't' :: _ => keyword "true"
  | 'f' :: _ => keyword "false"
  | character :: _ =>
      if character == '-' || character.isDigit then
        match readNumber text with
        | .ok _ => .mismatched
        | .error fault => fault
      else .malformed
  | [] => .malformed
where
  keyword (letters : String) : Fault :=
    match readKeyword letters text with
    | .ok _ => .mismatched
    | .error fault => fault

/-! ## Scalars -/

/-- A whole number within bounds. -/
def readInteger (low high : Int) : Reader Int := fun text =>
  let text := skipSpace text
  match text with
  | [] => .error .malformed
  | character :: _ =>
      if character == '-' || character.isDigit then do
        let (number, rest) ← readNumber text
        let value ← match number with
          | .natural value => pure (value : Int)
          | .negative magnitude => pure (-(magnitude : Int))
          | .other => .error .mismatched
        if low ≤ value ∧ value ≤ high then pure (value, rest) else .error .mismatched
      else .error (wrongKind text)

def readInt64 : Reader Int64 := fun text => do
  let (value, rest) ← readInteger Int64.minValue.toInt Int64.maxValue.toInt text
  pure (.ofInt value, rest)

def readUInt64 : Reader UInt64 := fun text => do
  let (value, rest) ← readInteger 0 (UInt64.size - 1 : Nat) text
  pure (.ofNat value.toNat, rest)

def readUInt32 : Reader UInt32 := fun text => do
  let (value, rest) ← readInteger 0 (UInt32.size - 1 : Nat) text
  pure (.ofNat value.toNat, rest)

def readUInt16 : Reader UInt16 := fun text => do
  let (value, rest) ← readInteger 0 (UInt16.size - 1 : Nat) text
  pure (.ofNat value.toNat, rest)

def readString : Reader String := fun text =>
  match skipSpace text with
  | '"' :: rest => (readChars rest).map fun (characters, rest) => (.ofList characters, rest)
  | other => .error (wrongKind other)

def readBool : Reader Bool := fun text =>
  let text := skipSpace text
  match text with
  | 't' :: _ => (readKeyword "true" text).map fun rest => (true, rest)
  | 'f' :: _ => (readKeyword "false" text).map fun rest => (false, rest)
  | _ => .error (wrongKind text)

def readNull : Reader Unit := fun text =>
  let text := skipSpace text
  match text with
  | 'n' :: _ => (readKeyword "null" text).map fun rest => ((), rest)
  | _ => .error (wrongKind text)

/-- A value that may be null. -/
def readOptional (reader : Reader α) : Reader (Option α) := fun text =>
  let text := skipSpace text
  match text with
  | 'n' :: _ => (readKeyword "null" text).map fun rest => (none, rest)
  | _ => do
      let (value, rest) ← reader text
      pure (some value, rest)

/-- A string that stands for a value; one that stands for none has the wrong shape. -/
def readVia (convert : String → Option α) : Reader α := fun text => do
  let (written, rest) ← readString text
  match convert written with
  | some value => pure (value, rest)
  | none => .error .mismatched

/-! ## Values passed over

The bound on the number of steps is never reached: every step consumes a character. -/

def skipScalar (text : List Char) : Option (List Char) :=
  match text with
  | '"' :: rest => skipChars rest
  | 'n' :: _ => (readKeyword "null" text).toOption
  | 't' :: _ => (readKeyword "true" text).toOption
  | 'f' :: _ => (readKeyword "false" text).toOption
  | _ => (scanNumber text).map (·.2)

mutual

def skipValueWithin : Nat → List Char → Option (List Char)
  | 0, _ => none
  | bound + 1, text =>
      match skipSpace text with
      | '[' :: rest =>
          match skipSpace rest with
          | ']' :: after => some after
          | _ => skipItems bound rest
      | '\x7b' :: rest =>
          match skipSpace rest with
          | '\x7d' :: after => some after
          | rest => skipMembers bound rest
      | other => skipScalar other

def skipItems : Nat → List Char → Option (List Char)
  | 0, _ => none
  | bound + 1, text =>
      match skipValueWithin bound text with
      | none => none
      | some rest =>
          match skipSpace rest with
          | ',' :: rest => skipItems bound rest
          | ']' :: rest => some rest
          | _ => none

def skipMembers : Nat → List Char → Option (List Char)
  | 0, _ => none
  | bound + 1, text =>
      match skipSpace text with
      | '"' :: key =>
          match (skipChars key).map skipSpace with
          | some (':' :: rest) =>
              match skipValueWithin bound rest with
              | none => none
              | some rest =>
                  match skipSpace rest with
                  | ',' :: rest => skipMembers bound rest
                  | '\x7d' :: rest => some rest
                  | _ => none
          | _ => none
      | _ => none

end

def skipValue : Reader Unit := fun text =>
  match skipValueWithin (2 * text.length + 2) text with
  | some rest => .ok ((), rest)
  | none => .error .malformed

/-! ## Sequences

`first` tells whether an item has been read already, and so whether a comma is due. -/

/-- The text at the next item, or `none` at the closing bracket. -/
def nextItem (first : Bool) (text : List Char) : Except Fault (Option (List Char)) :=
  match skipSpace text with
  | ']' :: _ => .ok none
  | ',' :: rest =>
      if first then .ok (some (',' :: rest))
      else
        match skipSpace rest with
        | ']' :: _ => .error .malformed
        | rest => .ok (some rest)
  | [] => .error .malformed
  | other => if first then .ok (some other) else .error .malformed

def closeItems (text : List Char) : Except Fault (List Char) :=
  match skipSpace text with
  | ']' :: rest => .ok rest
  | _ => .error .malformed

def readItems (reader : Reader α) : Nat → Bool → Reader (List α)
  | 0, _, _ => .error .malformed
  | bound + 1, first, text => do
      match ← nextItem first text with
      | none => pure ([], ← closeItems text)
      | some item =>
          let (value, rest) ← reader item
          let (values, rest) ← readItems reader bound false rest
          pure (value :: values, rest)

def readArray (reader : Reader α) : Reader (List α) := fun text =>
  match skipSpace text with
  | '[' :: rest => readItems reader (rest.length + 1) true rest
  | other => .error (wrongKind other)

/-! ## Records

A record is read into a partial record, field by field in the order of the text. It may also be
given as the array of its fields, all of them in the order of their declaration. -/

structure Field (partialRecord : Type) where
  key : String
  /-- A second value for the field is refused. -/
  taken : partialRecord → Bool
  read : partialRecord → Reader partialRecord

namespace Field

/-- A field that is stored as an option in the partial record. -/
def of (key : String) (get : σ → Option α) (set : σ → α → σ) (reader : Reader α) : Field σ where
  key := key
  taken state := (get state).isSome
  read state text := do
    let (value, rest) ← reader text
    pure (set state value, rest)

end Field

structure Shape (σ α : Type) where
  blank : σ
  fields : List (Field σ)
  /-- `none` when a required field is missing. -/
  finish : σ → Option α

namespace Shape

def finished (shape : Shape σ α) (state : σ) : Except Fault α :=
  match shape.finish state with
  | some value => .ok value
  | none => .error .mismatched

/-- The text at the next key's opening quote, or `none` at the closing brace. -/
def nextKey (first : Bool) (text : List Char) : Except Fault (Option (List Char)) :=
  match skipSpace text with
  | '\x7d' :: _ => .ok none
  | ',' :: rest =>
      if first then .error .malformed
      else
        match skipSpace rest with
        | '"' :: rest => .ok (some rest)
        | _ => .error .malformed
  | '"' :: rest => if first then .ok (some rest) else .error .malformed
  | _ => .error .malformed

def readColon (text : List Char) : Except Fault (List Char) :=
  match skipSpace text with
  | ':' :: rest => .ok rest
  | _ => .error .malformed

def closeMembers (text : List Char) : Except Fault (List Char) :=
  match skipSpace text with
  | '\x7d' :: rest => .ok rest
  | _ => .error .malformed

/-- A repeated field is refused as soon as its key is read; an unknown one is passed over. -/
def readMember (shape : Shape σ α) (state : σ) (key : String) (text : List Char) :
    Except Fault (σ × List Char) :=
  match shape.fields.find? (·.key == key) with
  | some field =>
      if field.taken state then .error .mismatched
      else do field.read state (← readColon text)
  | none => do
      let (_, rest) ← skipValue (← readColon text)
      pure (state, rest)

def readMembers (shape : Shape σ α) : Nat → Bool → σ → Reader α
  | 0, _, _, _ => .error .malformed
  | bound + 1, first, state, text => do
      match ← nextKey first text with
      | none =>
          let value ← shape.finished state
          pure (value, ← closeMembers text)
      | some key =>
          let (characters, rest) ← readChars key
          let (state, rest) ← shape.readMember state (.ofList characters) rest
          shape.readMembers bound false state rest

def readFields (first : Bool) (state : σ) : List (Field σ) → Reader σ
  | [], text => .ok (state, text)
  | field :: fields, text => do
      match ← nextItem first text with
      | none => .error .mismatched
      | some item =>
          let (state, rest) ← field.read state item
          readFields false state fields rest

def read (shape : Shape σ α) : Reader α := fun text =>
  match skipSpace text with
  | '\x7b' :: rest => shape.readMembers (rest.length + 1) true shape.blank rest
  | '[' :: rest => do
      let (state, rest) ← readFields true shape.blank shape.fields rest
      let value ← shape.finished state
      pure (value, ← closeItems rest)
  | other => .error (wrongKind other)

end Shape

/-! ## Whole texts -/

/-- What stands for bytes of no character: a surrogate without its other half, and before it a
letter that no backslash can join on to. -/
def stray : List Char := ['x', '\\', 'u', 'd', 'c', '0', '0']

/-- The text of bytes that need not be UTF-8 throughout. -/
def textOf (bytes : List UInt8) : List Char :=
  (Utf8.scan bytes).flatMap fun
    | some character => [character]
    | none => stray

/-- Nothing but white space may follow the value. -/
def readAll (reader : Reader α) (text : List Char) : Except Fault α := do
  let (value, rest) ← reader text
  if (skipSpace rest).isEmpty then pure value else .error .malformed

/-- Whatever follows the value is left unread. -/
def readLeading (reader : Reader α) (text : List Char) : Except Fault α :=
  (reader text).map (·.1)

end Tenancy.Json
