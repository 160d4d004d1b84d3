import Mathlib.Data.List.Forall2
import Tenancy.Proofs.Text.Decimal
import Tenancy.Settings.Decode
import Tenancy.Settings.Environment

/-! The kinds of values that settings have, and what gives such a value: an item of a document, or
the text of a variable. Reading finds a value exactly where one is given. -/

namespace Tenancy.Settings

open Tenancy.Toml Tenancy.Text

/-! ## Sections

A table has its items under keys; a list has them in the order of the fields; a date or a time has
none. -/

def IsSection : Item → Prop
  | .table _ _ | .list _ | .tables _ | .moment => True
  | .text _ | .integer _ | .truth _ | .float => False

/-- The item that a section has for a field. -/
def itemAt (position : Nat) (key : String) : Item → Option Item
  | .table _ entries => entries.lookup key
  | .list items => items[position]?
  | .tables rows => rows[position]?.map (.table .header)
  | .text _ | .integer _ | .truth _ | .float | .moment => none

theorem lookup_zip {names : List String} (once : names.Nodup) (items : List Item)
    {position : Nat} {name : String} (named : names[position]? = some name) :
    (names.zip items).lookup name = items[position]? := by
  induction names generalizing items position with
  | nil => cases named
  | cons first names induction =>
      rw [List.nodup_cons] at once
      cases items with
      | nil => simp
      | cons item items =>
          cases position with
          | zero =>
              cases named
              simp
          | succ position =>
              have later : names[position]? = some name := named
              have different : name ≠ first := by
                rintro rfl
                exact once.1 (List.mem_of_getElem? later)
              rw [List.zip_cons_cons, List.lookup_cons, beq_false_of_ne different,
                List.getElem?_cons_succ]
              exact induction once.2 items later

theorem fields_of_fieldsOf? {names : List String} {item : Item} {fields : Fields}
    (read : fieldsOf? names item = some fields) :
    IsSection item ∧ (names.Nodup → ∀ position name, names[position]? = some name →
      fields name = itemAt position name item) := by
  cases item with
  | table origin entries =>
      cases read
      exact ⟨trivial, fun _ _ _ _ => rfl⟩
  | list items =>
      cases read
      exact ⟨trivial, fun once _ _ named => lookup_zip once items named⟩
  | tables rows =>
      cases read
      refine ⟨trivial, fun once position name named => ?_⟩
      exact (lookup_zip once _ named).trans List.getElem?_map
  | moment =>
      cases read
      exact ⟨trivial, fun _ _ _ _ => rfl⟩
  | text | integer | truth | float => cases read

theorem orDefault_eq_some_iff {fields : Fields} {name : String} {read : Item → Option α}
    {default value : α} : orDefault fields name read default = some value ↔
      (fields name = none ∧ value = default) ∨
        ∃ item, fields name = some item ∧ read item = some value := by
  unfold orDefault
  cases fields name with
  | none => simp [eq_comm]
  | some item => simp

theorem exists_fieldsOf? {item : Item} (isSection : IsSection item) (names : List String) :
    ∃ fields, fieldsOf? names item = some fields := by
  cases item with
  | table | list | tables | moment => exact ⟨_, rfl⟩
  | text | integer | truth | float => cases isSection

/-! ## Kinds of values -/

inductive Kind where
  | text
  | directory
  | truth
  | word16
  | word32
  | word64
  | signed64
  | clusters
  deriving DecidableEq, Repr

namespace Kind

abbrev Value : Kind → Type
  | text => String
  | directory => Option String
  | truth => Bool
  | word16 => UInt16
  | word32 => UInt32
  | word64 => UInt64
  | signed64 => Int64
  | clusters => List ClusterSettings

/-! ### Items -/

/-- The clusters are given one by one, in a list or under a doubled header. -/
def entriesOf? : Item → Option (List Item)
  | .list items => some items
  | .tables rows => some (rows.map (.table .header))
  | _ => none

structure GivesCluster (item : Item) (cluster : ClusterSettings) : Prop where
  isSection : IsSection item
  code : itemAt 0 "code" item = some (.integer cluster.code.toInt)
  name : itemAt 1 "name" item = some (.text cluster.name)
  kubeconfig : itemAt 2 "kubeconfig" item = some (.text cluster.kubeconfig)
  context : itemAt 3 "context" item = cluster.context.map .text

/-- The item is of the kind, and gives the value. A document has no whole numbers beyond the signed
ones. -/
def Gives : (kind : Kind) → Item → kind.Value → Prop
  | text, item, value => item = .text value
  | directory, item, value => ∃ path, item = .text path ∧ value = some path
  | truth, item, value => item = .truth value
  | word16, item, value => item = .integer value.toNat
  | word32, item, value => item = .integer value.toNat
  | word64, item, value => item = .integer value.toNat ∧ (value.toNat : Int) ≤ Int64.maxValue.toInt
  | signed64, item, value => item = .integer value.toInt
  | clusters, item, value => ∃ entries, entriesOf? item = some entries ∧
      List.Forall₂ GivesCluster entries value

def ofItem? : (kind : Kind) → Item → Option kind.Value
  | text => textOf?
  | directory => fun item => (textOf? item).map some
  | truth => truthOf?
  | word16 => uint16Of?
  | word32 => uint32Of?
  | word64 => uint64Of?
  | signed64 => int64Of?
  | clusters => clustersOf?

theorem textOf?_eq_some_iff {item : Item} {value : String} :
    textOf? item = some value ↔ item = .text value := by
  cases item <;> simp [textOf?]

theorem integerOf?_eq_some_iff {low high value : Int} {item : Item} :
    integerOf? low high item = some value ↔ item = .integer value ∧ low ≤ value ∧ value ≤ high := by
  cases item with
  | integer given =>
      simp only [integerOf?, Option.ite_none_right_eq_some, Option.some.injEq, Item.integer.injEq]
      constructor
      · rintro ⟨inside, rfl⟩
        exact ⟨rfl, inside⟩
      · rintro ⟨rfl, inside⟩
        exact ⟨inside, rfl⟩
  | text | truth | float | moment | list | table | tables => exact ⟨nofun, nofun⟩

theorem word_eq_some_iff {word : Type} {ofNat : Nat → word} (toNat : word → Nat) {limit : Int}
    (toNat_ofNat : ∀ number : Nat, (number : Int) ≤ limit → toNat (ofNat number) = number)
    (ofNat_toNat : ∀ value, ofNat (toNat value) = value) {item : Item} {value : word} :
    ((integerOf? 0 limit item).map fun number => ofNat number.toNat) = some value ↔
      item = .integer (toNat value) ∧ (toNat value : Int) ≤ limit := by
  simp only [Option.map_eq_some_iff, integerOf?_eq_some_iff]
  constructor
  · rintro ⟨number, ⟨rfl, nonnegative, most⟩, rfl⟩
    rw [toNat_ofNat _ (by omega), Int.toNat_of_nonneg nonnegative]
    exact ⟨rfl, most⟩
  · rintro ⟨rfl, most⟩
    exact ⟨toNat value, ⟨rfl, by omega, most⟩, ofNat_toNat value⟩

theorem int64Of?_eq_some_iff {item : Item} {value : Int64} :
    int64Of? item = some value ↔ item = .integer value.toInt := by
  simp only [int64Of?, Option.map_eq_some_iff, integerOf?_eq_some_iff]
  constructor
  · rintro ⟨number, ⟨rfl, least, most⟩, rfl⟩
    rw [Int64.toInt_ofInt_of_le least (Int.lt_of_le_of_lt most (by decide))]
  · rintro rfl
    exact ⟨_, ⟨rfl, value.minValue_le_toInt, value.toInt_le⟩, Int64.ofInt_toInt value⟩

theorem mapM_eq_some_iff {read : α → Option β} {items : List α} {values : List β} :
    items.mapM read = some values ↔
      List.Forall₂ (fun item value => read item = some value) items values := by
  induction items generalizing values with
  | nil =>
      rw [List.mapM_nil]
      constructor
      · rintro ⟨⟩
        exact .nil
      · rintro ⟨⟩
        rfl
  | cons item items induction =>
      rw [List.mapM_cons]
      constructor
      · intro reads
        rcases Option.bind_eq_some_iff.mp reads with ⟨value, first, reads⟩
        rcases Option.bind_eq_some_iff.mp reads with ⟨rest, later, reads⟩
        cases reads
        exact .cons first (induction.mp later)
      · rintro (_ | ⟨first, later⟩)
        rw [first, induction.mpr later]
        rfl

theorem clusterOf?_eq_some_iff {item : Item} {cluster : ClusterSettings} :
    clusterOf? item = some cluster ↔ GivesCluster item cluster := by
  constructor
  · intro read
    simp only [clusterOf?, needed, Option.bind_eq_bind, Option.bind_eq_some_iff,
      int64Of?_eq_some_iff, textOf?_eq_some_iff, Option.some.injEq] at read
    rcases read with ⟨fields, read, code, ⟨_, code', rfl⟩, name, ⟨_, name', rfl⟩, path,
      ⟨_, path', rfl⟩, context, context', rfl⟩
    rcases fields_of_fieldsOf? read with ⟨isSection, placed⟩
    have placed := placed (by decide)
    refine ⟨isSection, ?_, ?_, ?_, ?_⟩
    · exact (placed 0 "code" rfl).symm.trans code'
    · exact (placed 1 "name" rfl).symm.trans name'
    · exact (placed 2 "kubeconfig" rfl).symm.trans path'
    · rw [← placed 3 "context" rfl]
      rcases orDefault_eq_some_iff.mp context' with ⟨absent, rfl⟩ | ⟨_, given, read⟩
      · exact absent
      · simp only [Option.map_eq_some_iff, textOf?_eq_some_iff] at read
        rcases read with ⟨text, rfl, rfl⟩
        exact given
  · rintro ⟨isSection, code, name, path, context⟩
    rcases exists_fieldsOf? isSection ["code", "name", "kubeconfig", "context"] with ⟨fields, read⟩
    have placed := (fields_of_fieldsOf? read).2 (by decide)
    rw [← placed 0 "code" rfl] at code
    rw [← placed 1 "name" rfl] at name
    rw [← placed 2 "kubeconfig" rfl] at path
    rw [← placed 3 "context" rfl] at context
    have readContext : orDefault fields "context" (fun item => (textOf? item).map some) none =
        some cluster.context := by
      rw [orDefault, context]
      cases cluster.context <;> rfl
    simp only [clusterOf?, read, needed, code, name, path, readContext, Option.bind_eq_bind,
      Option.bind_some, int64Of?_eq_some_iff.mpr rfl, textOf?_eq_some_iff.mpr rfl]

theorem clustersOf?_eq_some_iff {item : Item} {clusters : List ClusterSettings} :
    clustersOf? item = some clusters ↔ ∃ entries, entriesOf? item = some entries ∧
      List.Forall₂ GivesCluster entries clusters := by
  have reads : (fun item cluster => clusterOf? item = some cluster) = GivesCluster := by
    funext item cluster
    exact propext clusterOf?_eq_some_iff
  cases item with
  | list items => simp [clustersOf?, entriesOf?, mapM_eq_some_iff, reads]
  | tables rows =>
      simp only [clustersOf?, mapM_eq_some_iff, entriesOf?, Option.some.injEq, exists_eq_left',
        List.forall₂_map_left_iff, ← reads]
  | text | integer | truth | float | moment | table => simp [clustersOf?, entriesOf?]

theorem ofItem?_eq_some_iff (kind : Kind) {item : Item} {value : kind.Value} :
    kind.ofItem? item = some value ↔ kind.Gives item value := by
  cases kind with
  | text => exact textOf?_eq_some_iff
  | directory =>
      simp only [ofItem?, Gives, Option.map_eq_some_iff, textOf?_eq_some_iff]
      exact exists_congr fun path => and_congr_right fun _ => eq_comm
  | truth => cases item <;> simp [ofItem?, truthOf?, Gives]
  | word16 =>
      refine (word_eq_some_iff UInt16.toNat ?_ fun _ => UInt16.ofNat_toNat).trans ?_
      · exact fun _ most => UInt16.toNat_ofNat_of_lt' (Nat.lt_succ_of_le (Int.ofNat_le.mp most))
      · exact and_iff_left (Int.ofNat_le.mpr (Nat.le_of_lt_succ value.toNat_lt))
  | word32 =>
      refine (word_eq_some_iff UInt32.toNat ?_ fun _ => UInt32.ofNat_toNat).trans ?_
      · exact fun _ most => UInt32.toNat_ofNat_of_lt' (Nat.lt_succ_of_le (Int.ofNat_le.mp most))
      · exact and_iff_left (Int.ofNat_le.mpr (Nat.le_of_lt_succ value.toNat_lt))
  | word64 =>
      refine word_eq_some_iff UInt64.toNat ?_ fun _ => UInt64.ofNat_toNat
      intro number most
      have largest : Int64.maxValue.toInt < UInt64.size := by decide
      exact UInt64.toNat_ofNat_of_lt' (by omega)
  | signed64 => exact int64Of?_eq_some_iff
  | clusters => exact clustersOf?_eq_some_iff

theorem Gives.unique {kind : Kind} {item : Item} {value other : kind.Value}
    (first : kind.Gives item value) (second : kind.Gives item other) : value = other := by
  rw [← ofItem?_eq_some_iff] at first second
  exact Option.some.inj (first.symm.trans second)

/-! ### Texts of variables -/

/-- The text of a variable denotes the value, white space around it apart. A text stands for itself
with all its white space, and no variable holds clusters. -/
def Denotes : (kind : Kind) → String → kind.Value → Prop
  | text, given, value => value = given
  | directory, given, value => value = some given
  | truth, given, value => trim given.toList = (if value then "true" else "false").toList
  | word16, given, value => Decimal.Numeral false (trim given.toList) value.toNat
  | word32, given, value => Decimal.Numeral false (trim given.toList) value.toNat
  | word64, given, value => Decimal.Numeral false (trim given.toList) value.toNat
  | signed64, given, value => Decimal.Numeral true (trim given.toList) value.toInt
  | clusters, _, _ => False

def ofText? : (kind : Kind) → String → Option kind.Value
  | text => some
  | directory => fun given => some (some given)
  | truth => fun given => Variable.truth? (.ofList (trim given.toList))
  | word16 => fun given => (readUInt16 (.ofList (trim given.toList))).toOption
  | word32 => fun given => (readUInt32 (.ofList (trim given.toList))).toOption
  | word64 => fun given => (readUInt64 (.ofList (trim given.toList))).toOption
  | signed64 => fun given => (readInt64 (.ofList (trim given.toList))).toOption
  | clusters => fun _ => none

theorem toOption_eq_some_iff {outcome : Except fault α} {value : α} :
    outcome.toOption = some value ↔ outcome = .ok value := by
  cases outcome <;> simp [Except.toOption]

theorem truth?_eq_some_iff {given : List Char} {value : Bool} :
    Variable.truth? (.ofList given) = some value ↔
      given = (if value then "true" else "false").toList := by
  have same (text : String) : String.ofList given = text ↔ given = text.toList := by
    rw [← String.toList_inj, String.toList_ofList]
  simp only [Variable.truth?, same]
  by_cases isTrue : given = "true".toList
  · rw [if_pos isTrue, isTrue]
    cases value <;> decide
  by_cases isFalse : given = "false".toList
  · rw [if_neg isTrue, if_pos isFalse, isFalse]
    cases value <;> decide
  · rw [if_neg isTrue, if_neg isFalse]
    cases value with
    | true => exact ⟨nofun, fun equal => absurd equal isTrue⟩
    | false => exact ⟨nofun, fun equal => absurd equal isFalse⟩

theorem ofText?_eq_some_iff (kind : Kind) {given : String} {value : kind.Value} :
    kind.ofText? given = some value ↔ kind.Denotes given value := by
  cases kind with
  | text | directory => simp only [ofText?, Denotes, Option.some.injEq, eq_comm]
  | truth => exact truth?_eq_some_iff
  | word16 =>
      simp only [ofText?, Denotes, toOption_eq_some_iff, readUInt16_eq_ok_iff, String.toList_ofList]
  | word32 =>
      simp only [ofText?, Denotes, toOption_eq_some_iff, readUInt32_eq_ok_iff, String.toList_ofList]
  | word64 =>
      simp only [ofText?, Denotes, toOption_eq_some_iff, readUInt64_eq_ok_iff, String.toList_ofList]
  | signed64 =>
      simp only [ofText?, Denotes, toOption_eq_some_iff, readInt64_eq_ok_iff, String.toList_ofList]
  | clusters => exact ⟨nofun, nofun⟩

theorem Denotes.unique {kind : Kind} {given : String} {value other : kind.Value}
    (first : kind.Denotes given value) (second : kind.Denotes given other) : value = other := by
  rw [← ofText?_eq_some_iff] at first second
  exact Option.some.inj (first.symm.trans second)

end Kind

end Tenancy.Settings
