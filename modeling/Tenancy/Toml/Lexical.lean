import Tenancy.Text.CodePoint

/-! The lexical elements of TOML: white space, line ends, comments, strings and keys. -/

namespace Tenancy.Toml

open Tenancy.Text

/-- A reader takes its element off the front of a text, if it is there. -/
abbrev Reader (α : Type) := List Char → Option (α × List Char)

/-! ## White space and lines -/

def isSpace (character : Char) : Bool :=
  character == ' ' || character == '\t'

def skipSpaces (text : List Char) : List Char :=
  text.dropWhile isSpace

/-- No control character may stand in a document, apart from the tab. -/
def isPlain (character : Char) : Bool :=
  character == '\t' || (' ' ≤ character && character.toNat != 127)

def newline? : List Char → Option (List Char)
  | '\n' :: rest => some rest
  | '\r' :: '\n' :: rest => some rest
  | _ => none

/-- A comment reaches to the end of its line. -/
def skipComment (text : List Char) : List Char :=
  match text with
  | '#' :: rest => rest.dropWhile isPlain
  | _ => text

/-- The rest of a line after what it says. -/
def endLine? (text : List Char) : Option (List Char) :=
  match skipComment (skipSpaces text) with
  | [] => some []
  | rest => newline? rest

/-- Skips white space, comments and line ends. -/
def skipLines : Nat → List Char → List Char
  | 0, text => text
  | bound + 1, text =>
      let text := skipComment (skipSpaces text)
      match newline? text with
      | some rest => skipLines bound rest
      | none => text

/-! ## Strings -/

/-- The character that an escape stands for, once its backslash is taken off. -/
def readEscape : Reader Char
  | 'b' :: rest => some (Char.ofNat 8, rest)
  | 't' :: rest => some ('\t', rest)
  | 'n' :: rest => some ('\n', rest)
  | 'f' :: rest => some (Char.ofNat 12, rest)
  | 'r' :: rest => some ('\r', rest)
  | '"' :: rest => some ('"', rest)
  | '\\' :: rest => some ('\\', rest)
  | 'u' :: rest => readCodePoint 4 rest
  | 'U' :: rest => readCodePoint 8 rest
  | _ => none

/-- The rest of a string on one line, up to its closing quote. -/
def readBasic : Nat → Reader (List Char)
  | 0, _ => none
  | _, '"' :: rest => some ([], rest)
  | bound + 1, '\\' :: rest => do
      let (character, rest) ← readEscape rest
      let (characters, rest) ← readBasic bound rest
      some (character :: characters, rest)
  | bound + 1, character :: rest =>
      if isPlain character then do
        let (characters, rest) ← readBasic bound rest
        some (character :: characters, rest)
      else none
  | _, [] => none

def readLiteral : Reader (List Char)
  | '\'' :: rest => some ([], rest)
  | character :: rest =>
      if isPlain character then do
        let (characters, rest) ← readLiteral rest
        some (character :: characters, rest)
      else none
  | [] => none

/-! Over several lines, a string ends with three quotes, and up to two more may stand before them. -/

def closingQuotes (quote : Char) (text : List Char) : Option (List Char × List Char) :=
  let run := min 5 (text.takeWhile (· == quote)).length
  if 3 ≤ run then some (List.replicate (run - 3) quote, text.drop run) else none

/-- A backslash at the end of a line joins it to the next text there is. -/
def joinedLine? (text : List Char) : Option (List Char) :=
  (newline? (skipSpaces text)).map fun rest =>
    rest.dropWhile fun character => isSpace character || character == '\n' || character == '\r'

def readManyLines (quote : Char) (escapes : Bool) : Nat → Reader (List Char)
  | 0, _ => none
  | bound + 1, text =>
      match closingQuotes quote text with
      | some (quotes, rest) => some (quotes, rest)
      | none =>
          match newline? text with
          | some rest => do
              let (characters, rest) ← readManyLines quote escapes bound rest
              some ('\n' :: characters, rest)
          | none =>
              match text with
              | [] => none
              | character :: rest =>
                  if escapes && character == '\\' then
                    match joinedLine? rest with
                    | some rest => readManyLines quote escapes bound rest
                    | none => do
                        let (character, rest) ← readEscape rest
                        let (characters, rest) ← readManyLines quote escapes bound rest
                        some (character :: characters, rest)
                  else if isPlain character then do
                    let (characters, rest) ← readManyLines quote escapes bound rest
                    some (character :: characters, rest)
                  else none

/-- The first line end after the opening quotes does not count. -/
def afterOpening (text : List Char) : List Char :=
  (newline? text).getD text

def readString : Reader String := fun text =>
  let found := match text with
    | '"' :: '"' :: '"' :: rest => readManyLines '"' true (rest.length + 1) (afterOpening rest)
    | '"' :: rest => readBasic (rest.length + 1) rest
    | '\'' :: '\'' :: '\'' :: rest => readManyLines '\'' false (rest.length + 1) (afterOpening rest)
    | '\'' :: rest => readLiteral rest
    | _ => none
  found.map fun (characters, rest) => (.ofList characters, rest)

/-! ## Keys -/

def isBare (character : Char) : Bool :=
  character.isAlphanum || character == '-' || character == '_'

def readSimpleKey : Reader String := fun text =>
  match text with
  | '"' :: rest =>
      (readBasic (rest.length + 1) rest).map fun (characters, rest) => (.ofList characters, rest)
  | '\'' :: rest => (readLiteral rest).map fun (characters, rest) => (.ofList characters, rest)
  | _ =>
      match text.span isBare with
      | ([], _) => none
      | (name, rest) => some (.ofList name, rest)

/-- The names of a dotted key; white space may stand around each. -/
def readKeyParts : Nat → Reader (List String)
  | 0, _ => none
  | bound + 1, text => do
      let (name, rest) ← readSimpleKey (skipSpaces text)
      match skipSpaces rest with
      | '.' :: rest => do
          let (names, rest) ← readKeyParts bound rest
          some (name :: names, rest)
      | rest => some ([name], rest)

def readKey : Reader (List String) := fun text =>
  readKeyParts (text.length + 1) text

/-- The path of a key and its last name. -/
def readDottedKey : Reader (List String × String) := fun text => do
  let (names, rest) ← readKey text
  let last ← names.getLast?
  some ((names.dropLast, last), rest)

end Tenancy.Toml
