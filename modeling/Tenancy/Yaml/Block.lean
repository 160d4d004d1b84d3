import Tenancy.Yaml.Lexical

/-! Block scalars: indented lines taken as they are, or folded into longer ones. -/

namespace Tenancy.Yaml

/-- What becomes of the line ends after the last line. -/
inductive Chomping where
  | strip
  | clip
  | keep
  deriving DecidableEq, Repr

structure BlockHeader where
  folded : Bool
  chomping : Chomping
  /-- How much further in the lines are, where the header says so. -/
  indent : Option Nat
  deriving DecidableEq, Repr

def BlockHeader.extend (header : BlockHeader) (character : Char) : Option BlockHeader :=
  match character with
  | '+' => if header.chomping = .clip then some { header with chomping := .keep } else none
  | '-' => if header.chomping = .clip then some { header with chomping := .strip } else none
  | digit =>
      if '1' ≤ digit ∧ digit ≤ '9' ∧ header.indent = none then
        some { header with indent := some (digit.toNat - '0'.toNat) }
      else none

/-- The header, up to the end of its line. -/
def readBlockHeader : Reader BlockHeader := fun text => do
  let (folded, text) ← match text with
    | '|' :: rest => some (false, rest)
    | '>' :: rest => some (true, rest)
    | _ => none
  let (indicators, rest) := text.span fun character => !isSpace character
  let header ← indicators.foldlM BlockHeader.extend ⟨folded, .clip, none⟩
  match skipBlanks rest with
  | [] => some (header, [])
  | '\n' :: rest => some (header, rest)
  | '#' :: rest => some (header, (rest.dropWhile (· != '\n')).drop 1)
  | _ => none

/-! ## Lines -/

def isBlankLine (line : List Char) : Bool :=
  line.all (· == ' ')

/-- The indentation of the first line with something in it. -/
def firstIndent (text : List Char) : Nat :=
  match (text.splitOn '\n').find? fun line => !isBlankLine line with
  | some line => (line.takeWhile (· == ' ')).length
  | none => 0

/-- The lines of a block without their indentation. -/
def blockLines (indent : Nat) : Nat → List Char → List (List Char) × List Char
  | 0, text => ([], text)
  | bound + 1, text =>
      let (line, rest) := text.span (· != '\n')
      if text.isEmpty then ([], [])
      else if isBlankLine line || indent ≤ (line.takeWhile (· == ' ')).length then
        let (lines, rest) := blockLines indent bound (rest.drop 1)
        (line.drop indent :: lines, rest)
      else ([], text)

/-- A line of a block, with the number of empty lines after it. -/
def grouped : List (List Char) → List (List Char × Nat)
  | [] => []
  | line :: lines =>
      match grouped lines with
      | ([], count) :: rest => (line, count + 1) :: rest
      | rest => (line, 0) :: rest

/-- Folding makes a space of a line end, unless empty lines follow it or a line starts with a
blank. -/
def lineEnd (folded : Bool) (line next : List Char) (count : Nat) : List Char :=
  if folded && !line.head?.any isBlank && !next.head?.any isBlank then
    if count = 0 then [' '] else List.replicate count '\n'
  else List.replicate (count + 1) '\n'

def joinLines (header : BlockHeader) : List (List Char × Nat) → List Char
  | [] => []
  | [(line, count)] =>
      line ++ match header.chomping with
        | .strip => []
        | .clip => ['\n']
        | .keep => List.replicate (count + 1) '\n'
  | (line, count) :: (next, nextCount) :: rest =>
      line ++ lineEnd header.folded line next count ++ joinLines header ((next, nextCount) :: rest)

def joinBlock (header : BlockHeader) (lines : List (List Char)) : List Char :=
  let (empty, lines) := lines.span (·.isEmpty)
  if lines.isEmpty then
    if header.chomping = .keep then List.replicate empty.length '\n' else []
  else List.replicate empty.length '\n' ++ joinLines header (grouped lines)

/-- Reads a block whose lines start in the column `floor` or further in. -/
def readBlock (floor : Nat) : Reader String := fun text => do
  let (header, rest) ← readBlockHeader text
  let indent := match header.indent with
    | some count => floor - 1 + count
    | none => max (max floor 1) (firstIndent rest)
  let (lines, rest) := blockLines indent (rest.length + 1) rest
  some (.ofList (joinBlock header lines), rest)

end Tenancy.Yaml
