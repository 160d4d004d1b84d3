/-! Where a server is. A location is given by a URL, or by a path or a host alone. -/

namespace Tenancy

structure Location where
  scheme : Option String
  authority : String
  /-- The path, with the query that may follow it. -/
  path : String
  deriving DecidableEq, Repr

namespace Location

/-! ## Schemes -/

def isSchemeChar (character : Char) : Bool :=
  character.isAlphanum || ['+', '-', '.', '~'].contains character

def maxSchemeLength : Nat := 64

inductive SchemePart where
  | none (text : List Char)
  | scheme (name rest : List Char)
  | tooLong

/-- Cuts a text after the `://` that ends its scheme, if it has one. -/
def splitScheme (text : List Char) : SchemePart :=
  match text.span isSchemeChar with
  | (name, ':' :: '/' :: '/' :: rest) => if maxSchemeLength < name.length then .tooLong else .scheme name rest
  | _ => .none text

/-- The two schemes of the web are written in small letters. -/
def lowerScheme (text : List Char) : List Char :=
  let written (scheme : List Char) := (text.take scheme.length).map Char.toLower == scheme
  match ["http://".toList, "https://".toList].find? written with
  | some scheme => scheme ++ text.drop scheme.length
  | none => text

/-! ## Hosts -/

def isUriChar (character : Char) : Bool :=
  character.isAlphanum ||
    ['!', '#', '$', '&', '\'', '(', ')', '*', '+', ',', '-', '.', '/', ':', ';', '=', '?', '@', '[',
      ']', '_', '~'].contains character

/-- What is to be remembered of the characters of an authority up to some place in it. -/
structure AuthorityScan where
  colons : Nat
  opened : Bool
  closed : Bool
  /-- A percent sign stands in the host, so far as it is one. -/
  percent : Bool
  /-- The last character was an at sign. -/
  atSign : Bool

def maxColons : Nat := 8

def AuthorityScan.step (scan : AuthorityScan) (character : Char) : Option AuthorityScan :=
  let scan := { scan with atSign := character == '@' }
  match character with
  | ':' => if maxColons ≤ scan.colons then none else some { scan with colons := scan.colons + 1 }
  | '[' => if scan.percent || scan.opened then none else some { scan with opened := true }
  | ']' =>
      if !scan.opened || scan.closed then none
      else some { scan with closed := true, colons := 0, percent := false }
  | '@' => some { scan with colons := 0, percent := false }
  | '%' => some { scan with percent := true }
  | _ => if isUriChar character then some scan else none

/-- An authority has at most one colon after the user and the address in brackets, and no escape. -/
def isAuthority (authority : List Char) : Bool :=
  match authority.foldlM AuthorityScan.step ⟨0, false, false, false, false⟩ with
  | some scan => scan.opened == scan.closed && scan.colons ≤ 1 && !scan.atSign && !scan.percent
  | none => false

def endsAuthority (character : Char) : Bool :=
  ['/', '?', '#'].contains character

/-! ## Paths -/

def isPathChar (character : Char) : Bool :=
  ' ' < character && !(['#', '<', '>', '?', '\x60', '\x7f'].contains character)

def isQueryChar (character : Char) : Bool :=
  ' ' < character && !(['"', '#', '<', '>', '\x7f'].contains character)

def isPath (path : List Char) : Bool :=
  let (path, query) := (path.takeWhile (· != '#')).span (· != '?')
  path.all isPathChar && (query.drop 1).all isQueryChar

/-! ## Locations -/

def maxLength : Nat := 65534

def ofHost? (host : List Char) : Option Location :=
  if isAuthority host && !host.any endsAuthority then some ⟨none, .ofList host, ""⟩ else none

def parse? (url : String) : Option Location :=
  let text := lowerScheme url.toList
  if text.isEmpty || maxLength < url.utf8ByteSize then none
  else if text = ['*'] then some ⟨none, "", "*"⟩
  else if text.head? == some '/' then
    if isPath text then some ⟨none, "", .ofList (text.takeWhile (· != '#'))⟩ else none
  else
    match splitScheme text with
    | .tooLong => none
    | .none host => ofHost? host
    | .scheme name rest =>
        let (authority, path) := rest.span (!endsAuthority ·)
        if isAuthority authority && !authority.isEmpty && isPath path then
          some ⟨some (.ofList name), .ofList authority, .ofList (path.takeWhile (· != '#'))⟩
        else none

/-- Requests are sent only where the way to the server is known. -/
def isAbsolute (location : Location) : Bool :=
  location.scheme.isSome

/-- The URL of a path on the server. -/
def url (location : Location) (path : String) : String :=
  let base := (location.path.toList.takeWhile (· != '?')).reverse.dropWhile (· == '/')
  let origin := match location.scheme with
    | some scheme => scheme ++ "://" ++ location.authority
    | none => location.authority
  origin ++ .ofList base.reverse ++ path

example : (parse? "HTTPS://10.0.0.1:6443/base/").map (·.url "/api") =
    some "https://10.0.0.1:6443/base/api" := by decide +kernel

end Location

end Tenancy
