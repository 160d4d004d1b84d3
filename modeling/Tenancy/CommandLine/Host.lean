import Tenancy.Text.Percent

/-! Hosts that stand for an address without asking anyone. -/

namespace Tenancy.Host

open Tenancy.Text

def isOctet (part : List Char) : Bool :=
  let value := part.foldl (fun value digit => value * 10 + (digit.toNat - '0'.toNat)) 0
  !part.isEmpty && part.length ≤ 3 && part.all Char.isDigit && value ≤ 255 &&
    (part.length = 1 || part.head? != some '0')

/-- Four numbers up to 255 with dots between them. -/
def isFourPart (host : List Char) : Bool :=
  let parts := host.splitOn '.'
  parts.length = 4 && parts.all isOctet

def isGroup (part : List Char) : Bool :=
  !part.isEmpty && part.length ≤ 4 && part.all fun digit => (hexDigit? digit).isSome

/-- How many groups of sixteen bits a run of them has; it may end in an address of four parts. -/
def groupCount? (run : List Char) : Option Nat :=
  if run.isEmpty then some 0
  else
    let parts := run.splitOn ':'
    let last := parts.getLastD []
    if parts.dropLast.all isGroup then
      if isGroup last then some parts.length
      else if isFourPart last then some (parts.length + 1)
      else none
    else none

/-- The text before and after the first double colon. -/
def splitGap : List Char → Option (List Char × List Char)
  | ':' :: ':' :: rest => some ([], rest)
  | character :: rest => (splitGap rest).map fun (before, after) => (character :: before, after)
  | [] => none

/-- Eight groups, of which a double colon may leave out some. -/
def isEightPart (host : List Char) : Bool :=
  match splitGap host with
  | none => groupCount? host == some 8
  | some (before, after) =>
      match groupCount? before, groupCount? after with
      | some front, some back => front + back ≤ 7 && !before.contains '.'
      | _, _ => false

def withoutBrackets (host : List Char) : List Char :=
  if host.head? == some '[' && host.getLast? == some ']' then host.tail.dropLast else host

/-- Whether a server can listen on a host by its name alone. -/
def isKnown (host : String) : Bool :=
  host == "localhost" || isFourPart host.toList || isEightPart (withoutBrackets host.toList)

example : isKnown "0.0.0.0" ∧ isKnown "[::1]" ∧ ¬isKnown "1.2.3" := by decide +kernel

end Tenancy.Host
