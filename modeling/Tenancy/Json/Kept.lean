import Tenancy.Json.Reader

/-! Values that are kept whatever they are. Unlike what is passed over, their texts and numbers have
to be good throughout, and they may not be nested too deep. -/

namespace Tenancy.Json

/-- The keys of an object up to its closing brace, with a reader for its values. -/
def readEntries (reader : Reader Unit) : Nat → Bool → Reader (List String)
  | 0, _, _ => .error .malformed
  | bound + 1, first, text => do
      match ← Shape.nextKey first text with
      | none => pure ([], ← Shape.closeMembers text)
      | some key =>
          let (characters, rest) ← readChars key
          let ((), rest) ← reader (← Shape.readColon rest)
          let (keys, rest) ← readEntries reader bound false rest
          pure (.ofList characters :: keys, rest)

def readMap (reader : Reader Unit) : Reader (List String) := fun text =>
  match skipSpace text with
  | '\x7b' :: rest => readEntries reader (rest.length + 1) true rest
  | other => .error (wrongKind other)

/-- The reader, for its refusals only. -/
def checking (reader : Reader α) : Reader Unit := fun text =>
  (reader text).map fun (_, rest) => ((), rest)

def readKeptScalar : Reader Unit := fun text =>
  match text with
  | '"' :: _ => checking readString text
  | character :: _ =>
      if character == '-' || character.isDigit then checking readNumber text else skipValue text
  | [] => .error .malformed

/-- A value of any kind, nested no deeper than so many levels. -/
def readKept : Nat → Reader Unit
  | 0, text =>
      match skipSpace text with
      | '[' :: _ | '\x7b' :: _ => .error .malformed
      | other => readKeptScalar other
  | depth + 1, text =>
      match skipSpace text with
      | '[' :: _ => checking (readArray (readKept depth)) text
      | '\x7b' :: _ => checking (readMap (readKept depth)) text
      | other => readKeptScalar other

end Tenancy.Json
