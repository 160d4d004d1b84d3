import Tenancy.Database.Tables
import Tenancy.Text.Utf8

/-! A database as it stands in a file. The file is cut into pages of one size, and a tree of pages
holds the rows of each table. The tree on the first page lists the tables, with the page that each
of them starts on. -/

namespace Tenancy.Database.Image

/-! ## Numbers -/

/-- The highest byte comes first. -/
def natural (bytes : List UInt8) : Nat :=
  bytes.foldl (fun value byte => value * 256 + byte.toNat) 0

/-- So many bytes off the front, if there are as many. -/
def split? (count : Nat) (bytes : List UInt8) : Option (List UInt8 × List UInt8) :=
  if count ≤ bytes.length then some (bytes.splitAt count) else none

def naturalAt? (bytes : List UInt8) (place width : Nat) : Option Nat := do
  let (field, _) ← split? width (bytes.drop place)
  pure (natural field)

/-- Two's complement. -/
def signed (bytes : List UInt8) : Int64 :=
  let range := Nat.pow 256 bytes.length
  .ofInt (if 2 * natural bytes < range then natural bytes else natural bytes - range)

/-- A number of variable width. Each byte adds seven bits and tells whether another follows. When
the bytes that do so are used up, one more adds all of its eight. -/
def packedFrom (value : Nat) : (left : Nat) → List UInt8 → Option (Nat × List UInt8)
  | _, [] => none
  | 0, byte :: rest => some (value * 256 + byte.toNat, rest)
  | left + 1, byte :: rest =>
      if byte.toNat < 128 then some (value * 128 + byte.toNat, rest)
      else packedFrom (value * 128 + byte.toNat % 128) left rest

def packed : List UInt8 → Option (Nat × List UInt8) := packedFrom 0 8

example : packed [0x81, 0x01, 0x07] = some (129, [0x07]) := by decide

/-! ## Rows -/

inductive Value where
  | null
  | number (value : Int64)
  | text (value : String)
  /-- A fraction or a run of bytes. No table has a column of them. -/
  | other
  deriving DecidableEq, Repr

/-- The form of a value says how it is written, and for a text also how long it is. -/
def value? (form : Nat) (bytes : List UInt8) : Option (Value × List UInt8) :=
  let numberOf (width : Nat) : Option (Value × List UInt8) := do
    let (field, rest) ← split? width bytes
    pure (.number (signed field), rest)
  match form with
  | 0 => some (.null, bytes)
  | 1 | 2 | 3 | 4 => numberOf form
  | 5 => numberOf 6
  | 6 => numberOf 8
  | 7 => do
      let (_, rest) ← split? 8 bytes
      pure (.other, rest)
  | 8 => some (.number 0, bytes)
  | 9 => some (.number 1, bytes)
  | 10 | 11 => none
  | _ => do
      let (field, rest) ← split? ((form - 12) / 2) bytes
      if form % 2 = 0 then pure (.other, rest)
      else
        let characters ← Text.Utf8.decode? field
        pure (.text (.ofList characters), rest)

def values? : (forms : List Nat) → List UInt8 → Option (List Value)
  | [], _ => some []
  | form :: forms, bytes => do
      let (value, rest) ← value? form bytes
      pure (value :: (← values? forms rest))

/-- The numbers that fill a run of bytes. No number takes less than a byte. -/
def packedNumbers? : (bound : Nat) → List UInt8 → Option (List Nat)
  | _, [] => some []
  | 0, _ :: _ => none
  | bound + 1, bytes => do
      let (number, rest) ← packed bytes
      pure (number :: (← packedNumbers? bound rest))

structure Row where
  id : Int64
  values : List Value
  deriving DecidableEq, Repr

/-- The forms of all values come before the values. -/
def record? (bytes : List UInt8) : Option (List Value) := do
  let (length, _) ← packed bytes
  let (header, body) ← split? length bytes
  let (_, forms) ← packed header
  values? (← packedNumbers? forms.length forms) body

/-! ## Pages -/

structure File where
  bytes : List UInt8
  pageSize : Nat
  /-- The bytes of a page that rows can take up. -/
  usable : Nat

namespace File

def pageCount (file : File) : Nat := file.bytes.length / file.pageSize

/-- Pages are counted from one. -/
def page? (file : File) (number : Nat) : Option (List UInt8) := do
  if number = 0 then none
  let (page, _) ← split? file.pageSize (file.bytes.drop ((number - 1) * file.pageSize))
  pure page

/-- The rest of a row that is too long for its page. Each page names the next one. -/
def overflow? (file : File) : (bound left number : Nat) → Option (List UInt8)
  | 0, _, _ => none
  | bound + 1, left, number => do
      let page ← file.page? number
      let next ← naturalAt? page 0 4
      let room := file.usable - 4
      if left ≤ room then
        let (part, _) ← split? left (page.drop 4)
        pure part
      else
        let (part, _) ← split? room (page.drop 4)
        pure (part ++ (← file.overflow? bound (left - room) next))

/-- How much of a row stands on its own page. -/
def localLength (file : File) (length : Nat) : Nat :=
  let most := file.usable - 35
  let least := (file.usable - 12) * 32 / 255 - 23
  let fitting := least + (length - least) % (file.usable - 4)
  if length ≤ most then length else if fitting ≤ most then fitting else least

def row? (file : File) (cell : List UInt8) : Option Row := do
  let (length, rest) ← packed cell
  let (id, rest) ← packed rest
  let (start, rest) ← split? (file.localLength length) rest
  let beyond ←
    if start.length = length then pure []
    else file.overflow? file.pageCount (length - start.length) (← naturalAt? rest 0 4)
  pure ⟨.ofNat id, ← record? (start ++ beyond)⟩

/-- The start of the file takes up the first hundred bytes of the first page. -/
def headerPlace (number : Nat) : Nat := if number = 1 then 100 else 0

/-- Where the cells of a page are, given where their list starts. -/
def cells? (page : List UInt8) (header list : Nat) : Option (List (List UInt8)) := do
  let count ← naturalAt? page (header + 3) 2
  let places ← (List.range count).mapM fun index => naturalAt? page (list + 2 * index) 2
  pure (places.map page.drop)

/-- The rows of a tree. Its leaves hold them, in the order of their ids. A way down the tree meets
no page twice. -/
def rows? (file : File) : (bound number : Nat) → Option (List Row)
  | 0, _ => none
  | bound + 1, number => do
      let page ← file.page? number
      let header := headerPlace number
      match ← naturalAt? page header 1 with
      | 13 => (← cells? page header (header + 8)).mapM file.row?
      | 5 =>
          let children ← (← cells? page header (header + 12)).mapM fun cell => naturalAt? cell 0 4
          let last ← naturalAt? page (header + 8) 4
          let parts ← (children ++ [last]).mapM fun child => file.rows? bound child
          pure parts.flatten
      | _ => none

def magic : List UInt8 := Text.Utf8.encode "SQLite format 3".toList ++ [0]

/-- A page size of one stands for the largest, which does not fit its two bytes. The texts of the
file are in UTF-8. -/
def ofBytes? (bytes : List UInt8) : Option File := do
  if !magic.isPrefixOf bytes then none
  let size ← naturalAt? bytes 16 2
  let reserved ← naturalAt? bytes 20 1
  if (← naturalAt? bytes 56 4) ≠ 1 then none
  let pageSize := if size = 1 then 65536 else size
  pure ⟨bytes, pageSize, pageSize - reserved⟩

end File

/-! ## Tables -/

/-- An entry of the list of tables and indexes. -/
structure Entry where
  kind : String
  name : String
  /-- The page the tree starts on. -/
  root : Nat

def Entry.ofRow? : Row → Option Entry
  | ⟨_, [.text kind, .text name, _, .number root, _]⟩ => some ⟨kind, name, root.toInt.toNat⟩
  | _ => none

def migrationName? : Row → Option String
  | ⟨_, [_, .text name, _]⟩ => some name
  | _ => none

def userRow? : Row → Option UserRow
  | ⟨id, [_, .text username, .text role, _]⟩ => some ⟨id, username, role⟩
  | _ => none

def namespaceRow? : Row → Option NamespaceRow
  | ⟨id, [_, .number code, .text name, .number cluster, .number owner, .number created,
      .number updated]⟩ =>
      some ⟨id, code, name, cluster, owner, created, updated⟩
  | _ => none

def grantRow? : Row → Option GrantRow
  | ⟨_, [_, .number user, .number namespaceId, _]⟩ => some ⟨user, namespaceId⟩
  | _ => none

def workloadRow? : Row → Option WorkloadRow
  | ⟨_, [_, .number namespaceId, .text workload, .number active, _]⟩ =>
      some ⟨namespaceId, workload, active == 1⟩
  | _ => none

/-- The highest id ever given in a table, by the name of the table. -/
def sequence? : Row → Option (String × Int64)
  | ⟨_, [.text name, .number last]⟩ => some (name, last)
  | _ => none

/-- The rows of a table, if there is such a table. Every one of them has to have its form. -/
def tableRows? (file : File) (entries : List Entry) (name : String) (rowOf? : Row → Option α) :
    Option (Option (List α)) :=
  match entries.find? fun entry => entry.kind == "table" && entry.name == name with
  | none => some none
  | some entry => do
      let rows ← file.rows? file.pageCount entry.root
      some <$> rows.mapM rowOf?

/-- The indexes made by a statement of their own. -/
def isNamedIndex (entry : Entry) : Bool :=
  entry.kind == "index" && !"sqlite_".toList.isPrefixOf entry.name.toList

def read? (bytes : List UInt8) : Option Database := do
  let file ← File.ofBytes? bytes
  let entries ← (← file.rows? file.pageCount 1).mapM Entry.ofRow?
  let sequences ← tableRows? file entries "sqlite_sequence" sequence?
  let namespaces ← tableRows? file entries (Table.name .namespaces) namespaceRow?
  let last := ((sequences.getD []).lookup (Table.name .namespaces)).getD 0
  pure {
    ledger := ← tableRows? file entries (Table.name .ledger) migrationName?
    users := ← tableRows? file entries (Table.name .users) userRow?
    namespaces := namespaces.map (⟨·, last⟩)
    grants := ← tableRows? file entries (Table.name .grants) grantRow?
    workloads := ← tableRows? file entries (Table.name .workloads) workloadRow?
    indexes := (entries.filter isNamedIndex).map Entry.name }

end Tenancy.Database.Image
