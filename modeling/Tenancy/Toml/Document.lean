import Tenancy.Toml.Scalar

/-! Whole documents: the lines of a text, each a key with its value or the header of a table. -/

namespace Tenancy.Toml

/-! ## Values

The bound on the number of steps is never reached: every step consumes a character. -/

def readKeyword : Reader Item := fun text =>
  match startsWith? "true" text with
  | some rest => some (.truth true, rest)
  | none =>
      match startsWith? "false" text with
      | some rest => some (.truth false, rest)
      | none => none

mutual

def readValue : Nat → Reader Item
  | 0, _ => none
  | bound + 1, text =>
      match text with
      | '"' :: _ | '\'' :: _ => (readString text).map fun (value, rest) => (.text value, rest)
      | '[' :: rest => do
          let (items, rest) ← readItems bound (skipLines rest.length rest)
          some (.list items, rest)
      | '\x7b' :: rest => do
          match skipSpaces rest with
          | '\x7d' :: rest => some (.table .inline [], rest)
          | rest =>
              let (entries, rest) ← readPairs bound [] rest
              some (.table .inline entries, rest)
      | 't' :: _ | 'f' :: _ => readKeyword text
      | _ => readNumberOrMoment text

/-- The rest of a list; a comma may stand before its closing bracket. -/
def readItems : Nat → Reader (List Item)
  | 0, _ => none
  | bound + 1, text =>
      match text with
      | ']' :: rest => some ([], rest)
      | _ => do
          let (item, rest) ← readValue bound text
          match skipLines rest.length rest with
          | ',' :: rest =>
              let (items, rest) ← readItems bound (skipLines rest.length rest)
              some (item :: items, rest)
          | ']' :: rest => some ([item], rest)
          | _ => none

/-- The rest of an inline table, all on one line and with no comma at its end. -/
def readPairs : Nat → Entries → Reader Entries
  | 0, _, _ => none
  | bound + 1, entries, text => do
      let ((path, key), rest) ← readDottedKey text
      let rest ← readMark '=' rest
      let (item, rest) ← readValue bound (skipSpaces rest)
      let entries ← entries.assign path key item
      match skipSpaces rest with
      | ',' :: rest => readPairs bound entries rest
      | '\x7d' :: rest => some (entries, rest)
      | _ => none

end

/-! ## Lines -/

structure Document where
  entries : Entries
  /-- The path of the last header. -/
  header : List String

namespace Document

def readHeader (document : Document) (text : List Char) : Option (Document × List Char) := do
  let (path, rest) ← readKey text
  let rest ← endLine? (← readMark ']' rest)
  some (⟨← document.entries.openTable path, path⟩, rest)

def readRowHeader (document : Document) (text : List Char) : Option (Document × List Char) := do
  let (path, rest) ← readKey text
  let rest ← endLine? (← readMark ']' (← readMark ']' rest))
  some (⟨← document.entries.openRow path, path⟩, rest)

def readPair (document : Document) (text : List Char) : Option (Document × List Char) := do
  let ((path, key), rest) ← readDottedKey text
  let text := skipSpaces (← readMark '=' rest)
  let (item, rest) ← readValue (2 * text.length + 2) text
  let rest ← endLine? rest
  some ({ document with
    entries := ← document.entries.assignUnder document.header path key item }, rest)

def readLine (document : Document) (text : List Char) : Option (Document × List Char) :=
  match text with
  | '[' :: '[' :: rest => document.readRowHeader rest
  | '[' :: rest => document.readHeader rest
  | '#' :: _ | '\n' :: _ | '\r' :: _ => (endLine? text).map (document, ·)
  | _ => document.readPair text

def readLines : Nat → Document → List Char → Option Entries
  | 0, _, _ => none
  | bound + 1, document, text =>
      match skipSpaces text with
      | [] => some document.entries
      | text => do
          let (document, rest) ← document.readLine text
          readLines bound document rest

end Document

def byteOrderMark : Char := Char.ofNat 0xFEFF

/-- The tables of a document, unless something in it is out of place. -/
def read? (text : String) : Option Entries :=
  let characters := match text.toList with
    | first :: rest => if first = byteOrderMark then rest else first :: rest
    | [] => []
  Document.readLines (characters.length + 1) ⟨[], []⟩ characters

end Tenancy.Toml
