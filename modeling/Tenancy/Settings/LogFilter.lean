import Tenancy.Text.Blank
import Tenancy.Text.Decimal

/-! The filter of the log: directives with commas between them, each a level, a target, a span, or a
target or span with a level. -/

namespace Tenancy.LogFilter

open Tenancy.Text

inductive Fault where
  | directive
  | level
  deriving DecidableEq, Repr

def Fault.text : Fault → String
  | directive => "invalid filter directive"
  | level => "error parsing level filter: expected one of \"off\", \"error\", \"warn\", \"info\", "
      ++ "\"debug\", \"trace\", or a number 0-5"

inductive Level where
  | off
  | error
  | warn
  | info
  | debug
  | trace
  deriving DecidableEq, Repr

def Level.names : List (String × Level) :=
  [("off", off), ("error", error), ("warn", warn), ("info", info), ("debug", debug), ("trace", trace)]

def Level.ofNumber? : Nat → Option Level
  | 0 => some off
  | 1 => some error
  | 2 => some warn
  | 3 => some info
  | 4 => some debug
  | 5 => some trace
  | _ => none

/-- A level is given by its number, or by its name in letters of any case. -/
def Level.parse? (text : List Char) : Option Level :=
  match readUInt64 (.ofList text) with
  | .ok number => ofNumber? number.toNat
  | .error _ => names.lookup (.ofList (text.map Char.toLower))

structure Directive where
  target : Option String
  span : Option String
  level : Level
  deriving DecidableEq, Repr

/-! ## Reading a directive -/

/-- The part of a directive that a character is in, with the place where the part starts. -/
inductive Part where
  | start
  | levelOrTarget (start : Nat)
  | span (start : Nat)
  | field (start : Nat)
  | fields
  | target
  | level (start : Nat)
  deriving DecidableEq, Repr

structure Scan where
  part : Part
  directive : Directive

/-- Letters beyond ASCII are not told from other characters there. -/
def opensDirective (character : Char) : Bool :=
  ['-', ':', '_'].contains character || character.isAlphanum || 127 < character.toNat

def between (text : List Char) (start stop : Nat) : List Char :=
  (text.drop start).take (stop - start)

/-- Takes one character. `whole` is the text that parts are cut out of. -/
def Scan.step (whole : List Char) (scan : Scan) (index : Nat) (character : Char) : Option Scan :=
  let directive := scan.directive
  let cut (start : Nat) : String := .ofList (between whole start index)
  match scan.part, character with
  | .start, '[' => some ⟨.span (index + 1), directive⟩
  | .start, _ => if opensDirective character then some ⟨.levelOrTarget index, directive⟩ else none
  | .levelOrTarget start, '=' =>
      some ⟨.level (index + 1), { directive with target := some (cut start) }⟩
  | .levelOrTarget start, '[' =>
      some ⟨.span (index + 1), { directive with target := some (cut start) }⟩
  | .target, '=' => some ⟨.level (index + 1), directive⟩
  | .span start, ']' => some ⟨.target, { directive with span := some (cut start) }⟩
  | .span start, '\x7b' =>
      let name := cut start
      some ⟨.field (index + 1),
        { directive with span := if name.isEmpty then none else some name }⟩
  | .field start, '\x7d' => if (cut start).isEmpty then none else some ⟨.fields, directive⟩
  | .fields, ']' => some ⟨.target, directive⟩
  | .levelOrTarget _, _ | .span _, _ | .field _, _ | .level _, _ => some scan
  | .target, _ | .fields, _ => none

def Scan.finish (whole : List Char) (scan : Scan) : Except Fault Directive :=
  let directive := scan.directive
  match scan.part with
  | .levelOrTarget start =>
      let text := whole.drop start
      match Level.parse? text with
      | some level => .ok { directive with level }
      | none => .ok { directive with target := some (.ofList text) }
  | .level start =>
      let text := whole.drop start
      if text.isEmpty then .ok directive
      else
        match Level.parse? text with
        | some level => .ok { directive with level }
        | none => .error .level
  | .target => .ok directive
  | .start | .span _ | .field _ | .fields => .error .directive

/-- White space around a directive is not looked at, but places are counted without it while parts
are cut with it. -/
def readDirective (whole : List Char) : Except Fault Directive :=
  let blank : Scan := ⟨.start, ⟨none, none, .trace⟩⟩
  let scanned := (trim whole).zipIdx.foldlM
    (fun scan (character, index) => scan.step whole index character) blank
  match scanned with
  | some scan => scan.finish whole
  | none => .error .directive

/-- Empty parts between commas are passed over. -/
def parse (text : String) : Except Fault (List Directive) :=
  ((text.toList.splitOn ',').filter (!·.isEmpty)).mapM readDirective

example : (parse "info,http=warn").toOption.isSome := by decide +kernel

end Tenancy.LogFilter
