/-! What a TOML document says, as a tree of tables, and how a document adds to it. -/

namespace Tenancy.Toml

/-- How a table came to be, which decides how it may still be added to. -/
inductive Origin where
  /-- Named by a header. -/
  | header
  /-- Passed through by the header of a table further in. -/
  | implied
  /-- Passed through by a dotted key. -/
  | dotted
  /-- Written between braces, and closed with them. -/
  | inline
  deriving DecidableEq, Repr

inductive Item where
  | text (value : String)
  | integer (value : Int)
  | truth (value : Bool)
  | float
  | moment
  | list (items : List Item)
  | table (origin : Origin) (entries : List (String × Item))
  /-- The tables that repeated headers of one name add up to. -/
  | tables (rows : List (List (String × Item)))

abbrev Entries := List (String × Item)

namespace Entries

def has (entries : Entries) (key : String) : Bool :=
  (entries.lookup key).isSome

/-- The item takes the place of the one with its key, or the last place. -/
def put (entries : Entries) (key : String) (item : Item) : Entries :=
  match entries with
  | [] => [(key, item)]
  | entry :: rest => if entry.1 == key then (key, item) :: rest else entry :: put rest key item

/-! A path leads through tables. Entering an item gives the entries inside it, and the way to put
them back when they have changed. -/

structure Opening where
  entries : Entries
  close : Entries → Item

/-- A header may pass through any table but an inline one, and makes the tables that are missing. -/
def passHeader : Option Item → Option Opening
  | none => some ⟨[], .table .implied⟩
  | some (.table .inline _) => none
  | some (.table origin entries) => some ⟨entries, .table origin⟩
  | some (.tables rows) =>
      match rows.getLast? with
      | none => none
      | some last => some ⟨last, fun changed => .tables (rows.dropLast ++ [changed])⟩
  | some _ => none

/-- A dotted key does not pass through a table that has been closed by its own header or braces. -/
def passDotted : Option Item → Option Opening
  | none => some ⟨[], .table .dotted⟩
  | some (.table .header _) => none
  | item => passHeader item

def isDotted : Option Item → Bool
  | none | some (.table .dotted _) => true
  | some _ => false

/-- Gives a value to a dotted key. The last table on the way must be one that dotted keys made. -/
def assign (entries : Entries) (path : List String) (key : String) (item : Item) : Option Entries :=
  match path with
  | [] => if entries.has key then none else some (entries ++ [(key, item)])
  | step :: rest =>
      if rest.isEmpty && !isDotted (entries.lookup step) then none
      else do
        let opening ← passDotted (entries.lookup step)
        let changed ← opening.entries.assign rest key item
        some (entries.put step (opening.close changed))

/-- The table of a header. It may have been passed through before, but not given. -/
def openTable (entries : Entries) : List String → Option Entries
  | [] => none
  | [key] =>
      match entries.lookup key with
      | none => some (entries ++ [(key, .table .header [])])
      | some (.table .implied inner) => some (entries.put key (.table .header inner))
      | some _ => none
  | step :: rest => do
      let opening ← passHeader (entries.lookup step)
      let changed ← opening.entries.openTable rest
      some (entries.put step (opening.close changed))

/-- One more table under the name of a doubled header. -/
def openRow (entries : Entries) : List String → Option Entries
  | [] => none
  | [key] =>
      match entries.lookup key with
      | none => some (entries ++ [(key, .tables [[]])])
      | some (.tables rows) => some (entries.put key (.tables (rows ++ [[]])))
      | some _ => none
  | step :: rest => do
      let opening ← passHeader (entries.lookup step)
      let changed ← opening.entries.openRow rest
      some (entries.put step (opening.close changed))

/-- Gives a value to a key of the table that the last header opened. -/
def assignUnder (entries : Entries) (header path : List String) (key : String) (item : Item) :
    Option Entries :=
  match header with
  | [] => entries.assign path key item
  | step :: rest => do
      let opening ← passHeader (entries.lookup step)
      let changed ← opening.entries.assignUnder rest path key item
      some (entries.put step (opening.close changed))

end Entries

end Tenancy.Toml
