import Tenancy.Text.CodePoint

/-! The lexical elements of YAML: white space, and scalars with and without quotes. Line ends are all
the same character by the time a text is read. -/

namespace Tenancy.Yaml

open Tenancy.Text

/-- A reader takes its element off the front of a text, if it is there. -/
abbrev Reader (α : Type) := List Char → Option (α × List Char)

/-! ## White space -/

def isBlank (character : Char) : Bool :=
  character == ' ' || character == '\t'

def isSpace (character : Char) : Bool :=
  isBlank character || character == '\n'

/-- Whether an indicator before this text stands by itself. -/
def standsAlone : List Char → Bool
  | [] => true
  | character :: _ => isSpace character

def skipBlanks (text : List Char) : List Char :=
  text.dropWhile isBlank

def skipComment (text : List Char) : List Char :=
  match text with
  | '#' :: rest => rest.dropWhile (· != '\n')
  | _ => text

/-- Skips to the next element. Only between brackets may a line start with a tab. -/
def skipSpace (inFlow lineStart : Bool) : Nat → List Char → List Char
  | 0, text => text
  | bound + 1, text =>
      let indented := if lineStart && !inFlow then text.dropWhile (· == ' ') else skipBlanks text
      match skipComment indented with
      | '\n' :: rest => skipSpace inFlow true bound rest
      | rest => rest

/-- The white space at the front of a scalar's line end, as the scalar has it: one line end is a
space, and of several all but the first count. -/
def foldSpace (space : List Char) : List Char :=
  match space.count '\n' with
  | 0 => space
  | 1 => [' ']
  | count + 1 => List.replicate count '\n'

/-- The column that a text ends in when it starts in a given one. -/
def columnAfter (column : Nat) (text : List Char) : Nat :=
  text.foldl (fun column character => if character == '\n' then 0 else column + 1) column

/-- A line that separates documents. -/
def isMark (text : List Char) : Bool :=
  ("---".toList.isPrefixOf text || "...".toList.isPrefixOf text) && standsAlone (text.drop 3)

/-! ## Scalars in quotes -/

def readSingle : Nat → Reader (List Char)
  | 0, _ => none
  | _, [] => none
  | bound + 1, '\'' :: '\'' :: rest => do
      let (characters, rest) ← readSingle bound rest
      some ('\'' :: characters, rest)
  | _, '\'' :: rest => some ([], rest)
  | bound + 1, character :: rest =>
      if isSpace character then do
        let (space, rest) := (character :: rest).span isSpace
        let (characters, rest) ← readSingle bound rest
        some (foldSpace space ++ characters, rest)
      else do
        let (characters, rest) ← readSingle bound rest
        some (character :: characters, rest)

def simpleEscape? : Char → Option Char
  | '0' => some '\x00'
  | 'a' => some '\x07'
  | 'b' => some '\x08'
  | 't' | '\t' => some '\t'
  | 'n' => some '\n'
  | 'v' => some '\x0b'
  | 'f' => some '\x0c'
  | 'r' => some '\r'
  | 'e' => some '\x1b'
  | ' ' => some ' '
  | '"' => some '"'
  | '/' => some '/'
  | '\\' => some '\\'
  | 'N' => some (Char.ofNat 0x85)
  | '_' => some (Char.ofNat 0xA0)
  | 'L' => some (Char.ofNat 0x2028)
  | 'P' => some (Char.ofNat 0x2029)
  | _ => none

/-- The character that an escape stands for, once its backslash is taken off. -/
def readEscape : Reader Char
  | 'x' :: rest => readCodePoint 2 rest
  | 'u' :: rest => readCodePoint 4 rest
  | 'U' :: rest => readCodePoint 8 rest
  | letter :: rest => (simpleEscape? letter).map (·, rest)
  | [] => none

def readDouble : Nat → Reader (List Char)
  | 0, _ => none
  | _, [] => none
  | _, '"' :: rest => some ([], rest)
  | bound + 1, '\\' :: '\n' :: rest => readDouble bound (skipBlanks rest)
  | bound + 1, '\\' :: rest => do
      let (character, rest) ← readEscape rest
      let (characters, rest) ← readDouble bound rest
      some (character :: characters, rest)
  | bound + 1, character :: rest =>
      if isSpace character then do
        let (space, rest) := (character :: rest).span isSpace
        let (characters, rest) ← readDouble bound rest
        some (foldSpace space ++ characters, rest)
      else do
        let (characters, rest) ← readDouble bound rest
        some (character :: characters, rest)

/-- A scalar in quotes of either kind. -/
def readQuoted : Reader String := fun text =>
  let found := match text with
    | '\'' :: rest => readSingle (rest.length + 1) rest
    | '"' :: rest => readDouble (rest.length + 1) rest
    | _ => none
  found.map fun (characters, rest) => (.ofList characters, rest)

/-! ## Plain scalars -/

def isBracket (character : Char) : Bool :=
  [',', '[', ']', '\x7b', '\x7d'].contains character

def isIndicator (character : Char) : Bool :=
  isBracket character ||
    ['-', '?', ':', '#', '&', '*', '!', '|', '>', '\'', '"', '%', '@', '\x60'].contains character

def startsPlain (inFlow : Bool) (text : List Char) : Bool :=
  match text with
  | [] => false
  | '-' :: rest => !(rest.head?.any isBlank) && !rest.isEmpty && rest.head? != some '\n'
  | '?' :: rest | ':' :: rest => !inFlow && !standsAlone rest
  | character :: _ => !isSpace character && !isIndicator character

/-- Whether a plain scalar ends before this text. -/
def stopsPlain (inFlow : Bool) (text : List Char) : Bool :=
  match text with
  | [] => true
  | '\n' :: _ => true
  | ':' :: rest => standsAlone rest || (inFlow && rest.head?.any isBracket)
  | character :: _ => inFlow && isBracket character

/-- The part of a plain scalar on one line. Blanks belong to it only where more of it follows. -/
def plainRun (inFlow : Bool) : Nat → List Char → List Char × List Char
  | 0, text => ([], text)
  | bound + 1, text =>
      let (blanks, after) := text.span isBlank
      let comments := !blanks.isEmpty && after.head? == some '#'
      if comments || stopsPlain inFlow after then ([], text)
      else
        match after with
        | [] => ([], text)
        | character :: rest =>
            let (more, rest) := plainRun inFlow bound rest
            (blanks ++ character :: more, rest)

/-- Whether a plain scalar goes on in this line, which starts in a given column. -/
def continuesPlain (inFlow : Bool) (floor column : Nat) (text : List Char) : Bool :=
  (inFlow || floor ≤ column) && !(column = 0 && isMark text) && text.head? != some '#' &&
    !stopsPlain inFlow text

/-- A plain scalar over any number of lines, all of them indented as far as the first. -/
def readPlain (inFlow : Bool) (floor : Nat) : Nat → List Char → List Char × List Char
  | 0, text => ([], text)
  | bound + 1, text =>
      let (run, rest) := plainRun inFlow (text.length + 1) text
      let (space, after) := rest.span isSpace
      if space.contains '\n' && continuesPlain inFlow floor (columnAfter 0 space) after then
        let (more, rest) := readPlain inFlow floor bound after
        (run ++ foldSpace space ++ more, rest)
      else (run, rest)

end Tenancy.Yaml
