import Tenancy.Yaml.Block
import Tenancy.Yaml.Tree

/-! Whole texts of YAML: a run of documents, each one node. Indentation tells which lines belong
together, so a place in the text comes with its column. -/

namespace Tenancy.Yaml

structure Cursor where
  text : List Char
  column : Nat
  /-- The nodes given a name so far, the latest first. -/
  named : List (String × Node)

namespace Cursor

/-- The place before `rest`, a later part of the text. -/
def advance (cursor : Cursor) (rest : List Char) : Cursor :=
  let passed := cursor.text.take (cursor.text.length - rest.length)
  { cursor with text := rest, column := columnAfter cursor.column passed }

def skip (cursor : Cursor) (inFlow : Bool) : Cursor :=
  cursor.advance (skipSpace inFlow (cursor.column = 0) (cursor.text.length + 1) cursor.text)

/-- Whether the document ends here. -/
def atEnd (cursor : Cursor) : Bool :=
  cursor.text.isEmpty || (cursor.column = 0 && isMark cursor.text)

/-- Whether nothing more is on the line. -/
def lineIsOver (cursor : Cursor) : Bool :=
  match skipBlanks cursor.text with
  | [] | '\n' :: _ | '#' :: _ => true
  | _ => false

def skipBlanks (cursor : Cursor) : Cursor :=
  cursor.advance (Yaml.skipBlanks cursor.text)

def define (cursor : Cursor) (names : List String) (node : Node) : Cursor :=
  { cursor with named := names.map (·, node) ++ cursor.named }

/-- Whether an item of a list starts here. -/
def startsItem (cursor : Cursor) : Bool :=
  match cursor.text with
  | '-' :: rest => standsAlone rest
  | _ => false

end Cursor

abbrev Step (α : Type) := Cursor → Option (α × Cursor)

/-! ## Names

A node may have a name and a tag before it. Tags are passed over. -/

def endsName (character : Char) : Bool :=
  isSpace character || isBracket character

/-- The names given before a node. -/
def readNames : Nat → Cursor → List String × Cursor
  | 0, cursor => ([], cursor)
  | bound + 1, cursor =>
      match cursor.text with
      | '&' :: rest =>
          let (name, rest) := rest.span (!endsName ·)
          let (names, cursor) := readNames bound (cursor.advance rest).skipBlanks
          (.ofList name :: names, cursor)
      | '!' :: rest =>
          readNames bound (cursor.advance (rest.dropWhile (!endsName ·))).skipBlanks
      | _ => ([], cursor)

def readAlias : Step Node := fun cursor =>
  match cursor.text with
  | '*' :: rest => do
      let (name, rest) := rest.span (!endsName ·)
      let node ← cursor.named.lookup (.ofList name)
      some (node, cursor.advance rest)
  | _ => none

def readQuotedNode : Step Node := fun cursor => do
  let (value, rest) ← readQuoted cursor.text
  some (.text value, cursor.advance rest)

/-! ## Nodes between brackets

The bound on the number of steps is never reached: every step consumes a character. -/

/-- A plain scalar does not end at a colon that something follows. -/
def endsAtColon : List Char → Bool
  | ':' :: rest => !standsAlone rest
  | _ => false

def readPlainInFlow : Step Node := fun cursor =>
  let (written, rest) := readPlain true 0 (cursor.text.length + 1) cursor.text
  if startsPlain true cursor.text && !endsAtColon rest then
    some (.ofPlain (.ofList written), cursor.advance rest)
  else none

def putEntry (entries : List (Node × Node)) (key value : Node) : Option (List (Node × Node)) :=
  if entries.any (·.1.sameScalar key) then none else some (entries ++ [(key, value)])

mutual

def readFlow : Nat → Step Node
  | 0, _ => none
  | bound + 1, cursor =>
      match cursor.text with
      | '[' :: rest => do
          let (items, cursor) ← readFlowItems bound ((cursor.advance rest).skip true)
          some (.list items, cursor)
      | '\x7b' :: rest => do
          let (entries, cursor) ← readFlowEntries bound [] ((cursor.advance rest).skip true)
          some (.table entries, cursor)
      | '"' :: _ | '\'' :: _ => readQuotedNode cursor
      | '*' :: _ => readAlias cursor
      | '&' :: _ | '!' :: _ => do
          let (names, cursor) := readNames (cursor.text.length + 1) cursor
          let (node, cursor) ← readFlow bound (cursor.skip true)
          some (node, cursor.define names node)
      | _ => readPlainInFlow cursor

/-- The value after a key, if a colon follows it. -/
def readFlowValue : Nat → Step (Option Node)
  | 0, _ => none
  | bound + 1, cursor =>
      match cursor.text with
      | ':' :: rest =>
          let cursor := (cursor.advance rest).skip true
          match cursor.text with
          | ',' :: _ | ']' :: _ | '\x7d' :: _ => some (some .null, cursor)
          | _ => do
              let (value, cursor) ← readFlow bound cursor
              some (some value, cursor.skip true)
      | _ => some (none, cursor)

/-- The rest of a list. An item with a colon after it is the key of a table of its own. -/
def readFlowItems : Nat → Step (List Node)
  | 0, _ => none
  | bound + 1, cursor =>
      match cursor.text with
      | ']' :: rest => some ([], cursor.advance rest)
      | _ => do
          let (item, cursor) ← readFlow bound cursor
          let (value, cursor) ← readFlowValue bound (cursor.skip true)
          let item := match value with
            | some value => .table [(item, value)]
            | none => item
          match cursor.text with
          | ',' :: rest =>
              let (items, cursor) ← readFlowItems bound ((cursor.advance rest).skip true)
              some (item :: items, cursor)
          | ']' :: rest => some ([item], cursor.advance rest)
          | _ => none

/-- The rest of a table; no key may be given twice. -/
def readFlowEntries : Nat → List (Node × Node) → Step (List (Node × Node))
  | 0, _, _ => none
  | bound + 1, entries, cursor =>
      match cursor.text with
      | '\x7d' :: rest => some (entries, cursor.advance rest)
      | _ => do
          let (key, cursor) ← readFlow bound cursor
          let (value, cursor) ← readFlowValue bound (cursor.skip true)
          let entries ← putEntry entries key (value.getD .null)
          match cursor.text with
          | ',' :: rest => readFlowEntries bound entries ((cursor.advance rest).skip true)
          | '\x7d' :: rest => some (entries, cursor.advance rest)
          | _ => none

end

/-! ## Nodes by indentation -/

def readPlainRun : Step Node := fun cursor =>
  if startsPlain false cursor.text then
    let (written, rest) := plainRun false (cursor.text.length + 1) cursor.text
    some (.ofPlain (.ofList written), cursor.advance rest)
  else none

def readPlainLines (floor : Nat) : Step Node := fun cursor =>
  if startsPlain false cursor.text then
    let (written, rest) := readPlain false floor (cursor.text.length + 1) cursor.text
    some (.ofPlain (.ofList written), cursor.advance rest)
  else none

/-- A key with its colon, all on one line. -/
def readKey : Step Node := fun start => do
  let (names, cursor) := readNames (start.text.length + 1) start
  let (key, cursor) ← match cursor.text with
    | '[' :: _ | '\x7b' :: _ => readFlow (2 * cursor.text.length + 2) cursor
    | '"' :: _ | '\'' :: _ => readQuotedNode cursor
    | '*' :: _ => readAlias cursor
    | _ => readPlainRun cursor
  let passed := start.text.take (start.text.length - cursor.text.length)
  if passed.contains '\n' then none
  else
    match Yaml.skipBlanks cursor.text with
    | ':' :: rest => if standsAlone rest then some (key, (cursor.advance rest).define names key) else none
    | _ => none

/-- A node that is neither a list of items nor a table of lines. -/
def readContent (floor : Nat) : Step Node := fun cursor =>
  match cursor.text with
  | '|' :: _ | '>' :: _ => do
      let (value, rest) ← readBlock floor cursor.text
      some (.text value, cursor.advance rest)
  | '[' :: _ | '\x7b' :: _ => readFlow (2 * cursor.text.length + 2) cursor
  | '"' :: _ | '\'' :: _ => readQuotedNode cursor
  | '*' :: _ => readAlias cursor
  | _ => readPlainLines floor cursor

mutual

/-- A node at its first character. Its lines start in the column `floor` or further in. -/
def readNode : Nat → (floor : Nat) → Step Node
  | 0, _, _ => none
  | bound + 1, floor, cursor =>
      if cursor.startsItem then do
        let (items, cursor) ← readItems bound cursor.column cursor
        some (.list items, cursor)
      else
        match readKey cursor with
        | some (key, after) => do
            let (entries, cursor) ← readEntries bound cursor.column key [] after
            some (.table entries, cursor)
        | none =>
            match cursor.text with
            | '&' :: _ | '!' :: _ => do
                let (names, cursor) := readNames (cursor.text.length + 1) cursor
                let (node, cursor) ← readValue bound floor false cursor
                some (node, cursor.define names node)
            | _ => readContent floor cursor

/-- The node after a colon or a mark, in the same line or in lines further in. A list that is the
value of a key may start in the column of the key. -/
def readValue : Nat → (floor : Nat) → (ofKey : Bool) → Step Node
  | 0, _, _, _ => none
  | bound + 1, floor, ofKey, cursor =>
      if cursor.lineIsOver then
        let next := cursor.skip false
        if next.atEnd then some (.null, next)
        else if floor ≤ next.column then readNode bound floor next
        else if ofKey && next.startsItem && next.column + 1 = floor then do
          let (items, next) ← readItems bound next.column next
          some (.list items, next)
        else some (.null, next)
      else
        let cursor := cursor.skipBlanks
        match cursor.text with
        | '&' :: _ | '!' :: _ => do
            let (names, cursor) := readNames (cursor.text.length + 1) cursor
            let (node, cursor) ← readValue bound floor ofKey cursor
            some (node, cursor.define names node)
        | _ => if cursor.startsItem then none else readContent floor cursor

/-- The items of a list, each after a dash in the same column. -/
def readItems : Nat → (column : Nat) → Step (List Node)
  | 0, _, _ => none
  | bound + 1, column, cursor => do
      let cursor := cursor.advance (cursor.text.drop 1)
      let start := if cursor.lineIsOver then cursor.skip false else cursor.skipBlanks
      let (item, cursor) ←
        if start.atEnd || start.column ≤ column then some (.null, start)
        else readNode bound (column + 1) start
      let next := cursor.skip false
      if next.atEnd || next.column < column then some ([item], next)
      else if next.column = column then
        if next.startsItem then do
          let (items, next) ← readItems bound column next
          some (item :: items, next)
        else some ([item], next)
      else none

/-- The entries of a table, once its next key has been read. All keys are in the same column. -/
def readEntries : Nat → (column : Nat) → (key : Node) → List (Node × Node) →
    Step (List (Node × Node))
  | 0, _, _, _, _ => none
  | bound + 1, column, key, entries, cursor => do
      let (value, cursor) ← readValue bound (column + 1) true cursor
      let entries ← putEntry entries key value
      let next := cursor.skip false
      if next.atEnd || next.column < column then some (entries, next)
      else if next.column = column then do
        let (key, cursor) ← readKey next
        readEntries bound column key entries cursor
      else none

end

/-! ## Documents -/

/-- What comes after a document, read by `read`. -/
def readRest (read : Cursor → Option (List Node)) (cursor : Cursor) : Option (List Node) :=
  let cursor := cursor.skip false
  if cursor.atEnd then read { cursor with named := [] } else none

/-- Three dashes start a document and three dots end one; a text with nothing in it is one document
all the same. -/
def readDocuments : Nat → (first : Bool) → Cursor → Option (List Node)
  | 0, _, _ => none
  | bound + 1, first, cursor =>
      let cursor := cursor.skip false
      let steps := 4 * cursor.text.length + 4
      let rest := cursor.advance (cursor.text.drop 3)
      if cursor.text.isEmpty then some (if first then [.null] else [])
      else if cursor.column = 0 && isMark cursor.text then
        if cursor.text.head? == some '.' then
          if rest.lineIsOver then readDocuments bound first rest else none
        else do
          let (node, next) ← readValue steps 0 false rest
          some (node :: (← readRest (readDocuments bound false) next))
      else do
        let (node, next) ← readNode steps 0 cursor
        some (node :: (← readRest (readDocuments bound false) next))

/-! ## Characters -/

/-- What may stand in a text; the byte order mark only before it. -/
def isAllowed (character : Char) : Bool :=
  let point := character.toNat
  ['\t', '\n', '\r'].contains character || (0x20 ≤ point && point ≤ 0x7E) || point = 0x85 ||
    (0xA0 ≤ point && point ≤ 0xFFFD && point != 0xFEFF) || 0x10000 ≤ point

def joinLineEnds : List Char → List Char
  | '\r' :: '\n' :: rest => '\n' :: joinLineEnds rest
  | character :: rest =>
      (if character == '\r' || character.toNat = 0x85 then '\n' else character) :: joinLineEnds rest
  | [] => []

def withoutMark (text : List Char) : List Char :=
  if text.head?.any (·.toNat = 0xFEFF) then text.drop 1 else text

/-- The documents of a text. -/
def read? (written : String) : Option (List Node) :=
  let text := withoutMark written.toList
  if text.all isAllowed then readDocuments (text.length + 1) true ⟨joinLineEnds text, 0, []⟩ else none

end Tenancy.Yaml
