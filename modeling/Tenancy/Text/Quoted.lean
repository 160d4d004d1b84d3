import Tenancy.Text.PrintTable

/-! Texts shown between double quotes for a reader of messages, with whatever would be invisible or
ambiguous written as an escape. -/

namespace Tenancy.Text.Quoted

/-- Lower-case hexadecimal without leading zeros. -/
def hex (value : Nat) : List Char :=
  Nat.toDigits 16 value

def codePoint (character : Char) : List Char :=
  ['\\', 'u', '\x7b'] ++ hex character.toNat ++ ['\x7d']

def escape (character : Char) : List Char :=
  match character with
  | '\x00' => ['\\', '0']
  | '\t' => ['\\', 't']
  | '\r' => ['\\', 'r']
  | '\n' => ['\\', 'n']
  | '"' => ['\\', '"']
  | '\\' => ['\\', '\\']
  | _ =>
      if PrintTable.extenders.containsChar character || PrintTable.unprintable.containsChar character
      then codePoint character
      else [character]

/-- A path is shown with its single quotes escaped as well. -/
def escapeInPath (character : Char) : List Char :=
  if character == '\'' then ['\\', '\''] else escape character

def between (body : List Char) : String :=
  .ofList ('"' :: (body ++ ['"']))

def text (shown : String) : String :=
  between (shown.toList.flatMap escape)

def path (shown : String) : String :=
  between (shown.toList.flatMap escapeInPath)

end Tenancy.Text.Quoted
