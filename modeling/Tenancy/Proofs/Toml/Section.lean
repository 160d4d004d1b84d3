import Mathlib.Data.List.Nodup
import Tenancy.Proofs.Toml.Document

/-! Lines under a header add to the table that the header has opened, and to nothing else. -/

namespace Tenancy.Toml

/-! ## Entries -/

namespace Entries

theorem has_eq_false_iff {entries : Entries} {key : String} :
    entries.has key = false ↔ key ∉ entries.map Prod.fst := by
  rw [has, Option.isSome_eq_false_iff, Option.isNone_iff_eq_none, List.lookup_eq_none_iff,
    List.mem_map, not_exists]
  constructor
  · intro other entry found
    exact absurd found.2.symm (by simpa using other entry found.1)
  · intro missing entry member
    simpa using fun equal => missing entry ⟨member, Eq.symm equal⟩

variable {entries : Entries} {name : String}

theorem lookup_last (fresh : name ∉ entries.map Prod.fst) (item : Item) :
    List.lookup name (entries ++ [(name, item)]) = some item := by
  have none : List.lookup name entries = none := by
    have missing := has_eq_false_iff.mpr fresh
    rwa [has, Option.isSome_eq_false_iff, Option.isNone_iff_eq_none] at missing
  rw [List.lookup_append, none, Option.none_or, List.lookup_cons_self]

theorem put_last (fresh : name ∉ entries.map Prod.fst) (item other : Item) :
    put (entries ++ [(name, item)]) name other = entries ++ [(name, other)] := by
  induction entries with
  | nil => simp [put]
  | cons entry entries induction =>
      rw [List.map_cons, List.mem_cons, not_or] at fresh
      have different : (entry.1 == name) = false := beq_false_of_ne (Ne.symm fresh.1)
      rw [List.cons_append, put, different, if_neg Bool.false_ne_true, induction fresh.2]
      rfl

theorem assign_fresh {key : String} (fresh : key ∉ entries.map Prod.fst) (item : Item) :
    entries.assign [] key item = some (entries ++ [(key, item)]) := by
  rw [assign, has_eq_false_iff.mpr fresh]
  rfl

theorem openTable_fresh (fresh : name ∉ entries.map Prod.fst) :
    entries.openTable [name] = some (entries ++ [(name, .table .header [])]) := by
  have missing := has_eq_false_iff.mpr fresh
  rw [has, Option.isSome_eq_false_iff, Option.isNone_iff_eq_none] at missing
  rw [openTable, missing]

end Entries

/-! ## Headers -/

/-- The path of a header leads to one of the tables in a document. -/
def LeadsInto (header : List String) (document : Entries → Entries) : Prop :=
  ∀ (inner : Entries) path key item,
    (document inner).assignUnder header path key item = (inner.assign path key item).map document

theorem leadsInto_nil : LeadsInto [] id := by
  intro inner path key item
  rw [id_eq, Entries.assignUnder]
  cases inner.assign path key item <;> rfl

theorem LeadsInto.table {header : List String} {document : Entries → Entries} {entries : Entries}
    {name : String} (leads : LeadsInto header document) (fresh : name ∉ entries.map Prod.fst) :
    LeadsInto (name :: header) fun inner =>
      entries ++ [(name, .table .header (document inner))] := by
  intro inner path key item
  rw [Entries.assignUnder, Entries.lookup_last fresh]
  simp only [Entries.passHeader, Option.bind_eq_bind, Option.bind_some, leads inner,
    Entries.put_last fresh]
  cases inner.assign path key item <;> rfl

/-- The last of the tables of a list is the one that is added to. -/
theorem LeadsInto.row {header : List String} {document : Entries → Entries} {entries : Entries}
    {name : String} (leads : LeadsInto header document) (fresh : name ∉ entries.map Prod.fst)
    (rows : List Entries) :
    LeadsInto (name :: header) fun inner =>
      entries ++ [(name, .tables (rows ++ [document inner]))] := by
  intro inner path key item
  rw [Entries.assignUnder, Entries.lookup_last fresh]
  simp only [Entries.passHeader, List.getLast?_concat, List.dropLast_concat,
    Option.bind_eq_bind, Option.bind_some, leads inner, Entries.put_last fresh]
  cases inner.assign path key item <;> rfl

/-! ## Sections -/

abbrev Pairs := List (String × Scalar)

def Pairs.lines (pairs : Pairs) : List Line :=
  pairs.map fun (key, value) => .pair key value

def Pairs.entries (pairs : Pairs) : Entries :=
  pairs.map fun (key, value) => (key, value.item)

theorem foldlM_pairs {header : List String} {document : Entries → Entries}
    (leads : LeadsInto header document) {given : Entries} {pairs : Pairs}
    (once : (given.map Prod.fst ++ pairs.map Prod.fst).Nodup) :
    pairs.lines.foldlM Line.apply ⟨document given, header⟩ =
      some ⟨document (given ++ pairs.entries), header⟩ := by
  induction pairs generalizing given with
  | nil =>
      rw [Pairs.entries, List.map_nil, List.append_nil]
      rfl
  | cons pair pairs induction =>
      rcases pair with ⟨key, value⟩
      have fresh : key ∉ given.map Prod.fst := by
        intro member
        exact List.disjoint_of_nodup_append once member List.mem_cons_self
      have assigned : Line.apply ⟨document given, header⟩ (.pair key value) =
          some ⟨document (given ++ [(key, value.item)]), header⟩ := by
        rw [Line.apply, leads, Entries.assign_fresh fresh]
        rfl
      have later : ((given ++ [(key, value.item)]).map Prod.fst ++ pairs.map Prod.fst).Nodup := by
        rwa [List.map_append, List.append_assoc]
      rw [Pairs.lines, List.map_cons, List.foldlM_cons, assigned]
      refine (induction later).trans ?_
      rw [List.append_assoc]
      rfl

abbrev Section := String × Pairs

def Section.lines (part : Section) : List Line :=
  .blank :: .header [part.1] :: part.2.lines

def Section.entry (part : Section) : String × Item :=
  (part.1, .table .header part.2.entries)

theorem foldlM_section {entries : Entries} {part : Section} (fresh : part.1 ∉ entries.map Prod.fst)
    (once : (part.2.map Prod.fst).Nodup) (header : List String) :
    (Section.lines part).foldlM Line.apply ⟨entries, header⟩ =
      some ⟨entries ++ [part.entry], [part.1]⟩ := by
  have opened : Line.apply ⟨entries, header⟩ (.header [part.1]) =
      some ⟨entries ++ [(part.1, .table .header [])], [part.1]⟩ := by
    rw [Line.apply, Entries.openTable_fresh fresh]
    rfl
  have filled := @foldlM_pairs [part.1] _ (leadsInto_nil.table fresh) [] part.2 once
  change (Line.apply ⟨entries, header⟩ (.header [part.1])).bind
    (fun opened => part.2.lines.foldlM Line.apply opened) = _
  rw [opened]
  exact filled

/-- A document of sections is the list of their tables. -/
theorem foldlM_sections {parts : List Section} {entries : Entries}
    (once : (entries.map Prod.fst ++ parts.map Prod.fst).Nodup)
    (keysOnce : ∀ part ∈ parts, (part.2.map Prod.fst).Nodup) (header : List String) :
    ∃ last, (parts.flatMap Section.lines).foldlM Line.apply ⟨entries, header⟩ =
      some ⟨entries ++ parts.map Section.entry, last⟩ := by
  induction parts generalizing entries header with
  | nil => exact ⟨header, by rw [List.map_nil, List.append_nil]; rfl⟩
  | cons part parts induction =>
      have fresh : part.1 ∉ entries.map Prod.fst := by
        intro member
        exact List.disjoint_of_nodup_append once member List.mem_cons_self
      have later : ((entries ++ [part.entry]).map Prod.fst ++ parts.map Prod.fst).Nodup := by
        rwa [List.map_append, List.append_assoc]
      have first := foldlM_section fresh (keysOnce part List.mem_cons_self) header
      rcases induction later (fun other member => keysOnce other (List.mem_cons_of_mem part member))
        [part.1] with ⟨last, read⟩
      refine ⟨last, ?_⟩
      rw [List.flatMap_cons, List.foldlM_append, first]
      refine Eq.trans read ?_
      rw [List.append_assoc]
      rfl

end Tenancy.Toml
