import Tenancy.Text.Percent

/-! What a YAML document says. A scalar without quotes is a null, a truth value, a number or a text,
by what it looks like. -/

namespace Tenancy.Yaml

open Tenancy.Text

inductive Node where
  | null
  | truth (value : Bool)
  | number (written : String)
  | text (value : String)
  | list (items : List Node)
  /-- The keys of a table are nodes themselves. -/
  | table (entries : List (Node × Node))

namespace Node

/-- Whether two keys of one table are the same scalar. -/
def sameScalar : Node → Node → Bool
  | null, null => true
  | truth first, truth second => first == second
  | number first, number second => first == second
  | text first, text second => first == second
  | _, _ => false

end Node

/-! ## Numbers -/

def unsigned (written : List Char) : List Char :=
  match written with
  | '+' :: rest | '-' :: rest => rest
  | _ => written

def allDigits (isDigit : Char → Bool) (digits : List Char) : Bool :=
  !digits.isEmpty && digits.all isDigit

def isBased : List Char → Bool
  | '0' :: 'x' :: digits => allDigits (hexDigit? · |>.isSome) digits
  | '0' :: 'o' :: digits => allDigits (fun digit => '0' ≤ digit && digit ≤ '7') digits
  | '0' :: 'b' :: digits => allDigits (fun digit => digit == '0' || digit == '1') digits
  | _ => false

/-- Digits after a zero make a text, not a number. -/
def hasLeadingZero : List Char → Bool
  | '0' :: digit :: digits => (digit :: digits).all Char.isDigit
  | _ => false

def isExponent : List Char → Bool
  | [] => true
  | 'e' :: digits | 'E' :: digits => allDigits Char.isDigit (unsigned digits)
  | _ => false

def isDecimal (written : List Char) : Bool :=
  let (whole, rest) := written.span Char.isDigit
  let (fraction, rest) := match rest with
    | '.' :: digits => digits.span Char.isDigit
    | _ => ([], rest)
  !(whole ++ fraction).isEmpty && isExponent rest && !hasLeadingZero written

def isNumber (written : String) : Bool :=
  let magnitude := unsigned written.toList
  isBased magnitude || isDecimal magnitude ||
    String.ofList magnitude ∈ [".inf", ".Inf", ".INF"] || written ∈ [".nan", ".NaN", ".NAN"]

/-! ## Plain scalars -/

def Node.ofPlain (written : String) : Node :=
  if written ∈ ["", "~", "null", "Null", "NULL"] then .null
  else if written ∈ ["true", "True", "TRUE"] then .truth true
  else if written ∈ ["false", "False", "FALSE"] then .truth false
  else if isNumber written then .number written
  else .text written

end Tenancy.Yaml
