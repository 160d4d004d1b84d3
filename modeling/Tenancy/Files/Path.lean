/-! Paths as the operating system reads them: names separated by slashes, from the root or from the
current directory. -/

namespace Tenancy.Files

structure Path where
  absolute : Bool
  names : List String
  /-- Whether a slash follows the last name, which then has to be a directory. -/
  trailing : Bool
  deriving DecidableEq, Repr

namespace Path

/-- The parts of a path between its slashes. -/
def split (text : String) : List String :=
  (text.toList.splitOn '/').map String.ofList

/-- Empty parts only come from repeated slashes. -/
def parse (text : String) : Path :=
  let parts := split text
  { absolute := text.toList.head? == some '/'
    names := parts.filter (· ≠ "")
    trailing := parts.getLast? == some "" }

/-! The parent of a path is its text without its last name. A dot for the directory itself does not
count as a name, unless the path starts with it. -/

/-- The components of a path, each with the length of the text that ends with it. -/
def componentEnds (start : Nat) (first : Bool) : List String → List Nat
  | [] => []
  | part :: rest =>
      let stop := start + part.length
      let counts := part ≠ "" && (first || part ≠ ".")
      let ends := componentEnds (stop + 1) false rest
      if counts then stop :: ends else ends

/-- The text of the directory a path lies in. There is none for the root and the empty path. -/
def parent? (text : String) : Option String :=
  match (componentEnds 0 true (split text)).reverse with
  | [] => none
  | [_] => some (if (parse text).absolute then "/" else "")
  | _ :: before :: _ => some (.ofList (text.toList.take before))

example : parent? "data/ns.db" = some "data" := by decide

example : parent? "ns.db" = some "" := by decide

end Path

end Tenancy.Files
