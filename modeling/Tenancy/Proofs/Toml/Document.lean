import Tenancy.Proofs.Toml.Value

/-! Documents written out line by line. Reading such a text does what its lines say, one after the
other. -/

namespace Tenancy.Toml

open Tenancy.Text

/-! ## Keys -/

structure IsBareKey (key : String) : Prop where
  nonempty : key.toList ≠ []
  bare : ∀ character ∈ key.toList, isBare character = true

instance (key : String) : Decidable (IsBareKey key) :=
  decidable_of_iff (key.toList ≠ [] ∧ ∀ character ∈ key.toList, isBare character = true)
    ⟨fun ⟨nonempty, bare⟩ => ⟨nonempty, bare⟩, fun ⟨nonempty, bare⟩ => ⟨nonempty, bare⟩⟩

theorem ne_of_isBare {character other : Char} (bare : isBare character = true)
    (mark : isBare other = false) : character ≠ other := by
  intro equal
  rw [equal, mark] at bare
  cases bare

theorem isSpace_of_isBare {character : Char} (bare : isBare character = true) :
    isSpace character = false := by
  have space := ne_of_isBare bare (show isBare ' ' = false by decide)
  have tab := ne_of_isBare bare (show isBare '\t' = false by decide)
  simp [isSpace, space, tab]

theorem IsBareKey.exists_first {key : String} (bareKey : IsBareKey key) :
    ∃ first rest, key.toList = first :: rest ∧ isBare first = true := by
  cases written : key.toList with
  | nil => exact absurd written bareKey.nonempty
  | cons first rest => exact ⟨first, rest, rfl, bareKey.bare first (by simp [written])⟩

/-- The names of a key, with dots between them. -/
def writePath : List String → List Char
  | [] => []
  | [key] => key.toList
  | key :: path => key.toList ++ '.' :: writePath path

theorem readSimpleKey_bare {key : String} (bareKey : IsBareKey key) {stop : Char}
    (stops : isBare stop = false) (rest : List Char) :
    readSimpleKey (key.toList ++ stop :: rest) = some (key, stop :: rest) := by
  have named : (key.toList ++ stop :: rest).span isBare = (key.toList, stop :: rest) := by
    rw [List.span_eq_takeWhile_dropWhile, List.takeWhile_append_of_pos bareKey.bare,
      List.dropWhile_append_of_pos bareKey.bare, List.takeWhile_cons, List.dropWhile_cons, stops]
    simp
  have unquoted (quote : Char) (isQuote : isBare quote = false) (tail : List Char) :
      key.toList ++ stop :: rest ≠ quote :: tail := by
    intro equal
    rcases bareKey.exists_first with ⟨first, later, written, bare⟩
    rw [written] at equal
    exact ne_of_isBare bare isQuote (List.cons.inj equal).1
  unfold readSimpleKey
  split
  · next equal => exact absurd equal (unquoted '"' (by decide) _)
  · next equal => exact absurd equal (unquoted '\'' (by decide) _)
  · rw [named]
    split
    · next equal => exact absurd (Prod.mk.inj equal).1 bareKey.nonempty
    · next equal =>
        cases equal
        rw [String.ofList_toList]

theorem skipSpaces_of_bare {key : String} (bareKey : IsBareKey key) (rest : List Char) :
    skipSpaces (key.toList ++ rest) = key.toList ++ rest := by
  rcases bareKey.exists_first with ⟨first, later, written, bare⟩
  rw [written]
  exact skipSpaces_cons (isSpace_of_isBare bare) _

/-- What stands behind a key: no letter of it, and no dot that goes on with it. -/
structure EndsKey (stop : Char) (rest : List Char) : Prop where
  stops : isBare stop = false
  ends : (skipSpaces (stop :: rest)).head? ≠ some '.'

theorem readKeyParts_writePath {path : List String} (some_key : path ≠ [])
    (bare : ∀ key ∈ path, IsBareKey key) {stop : Char} {rest : List Char}
    (ends : EndsKey stop rest) {bound : Nat} (enough : path.length ≤ bound) :
    readKeyParts bound (writePath path ++ stop :: rest) =
      some (path, skipSpaces (stop :: rest)) := by
  induction path generalizing bound with
  | nil => exact absurd rfl some_key
  | cons key path induction =>
      cases bound with
      | zero => cases enough
      | succ bound =>
          have bareKey := bare key List.mem_cons_self
          cases path with
          | nil =>
              rw [writePath, readKeyParts, skipSpaces_of_bare bareKey,
                readSimpleKey_bare bareKey ends.stops]
              simp only [Option.bind_eq_bind, Option.bind_some]
              split
              · next equal => exact absurd (congrArg List.head? equal) ends.ends
              · rfl
          | cons next path =>
              have later (other : String) (member : other ∈ next :: path) : IsBareKey other :=
                bare other (List.mem_cons_of_mem key member)
              have reads := induction (List.cons_ne_nil _ _) later (Nat.le_of_succ_le_succ enough)
              rw [writePath, List.append_assoc, List.cons_append, readKeyParts,
                skipSpaces_of_bare bareKey, readSimpleKey_bare bareKey (by decide)]
              · simp only [Option.bind_eq_bind, Option.bind_some,
                  skipSpaces_cons (show isSpace '.' = false by decide), reads]
              · exact List.cons_ne_nil _ _

theorem length_le_length_writePath {path : List String} (bare : ∀ key ∈ path, IsBareKey key) :
    path.length ≤ (writePath path).length := by
  induction path with
  | nil => exact Nat.le_refl 0
  | cons key path induction =>
      have later := induction fun other member => bare other (List.mem_cons_of_mem key member)
      have nonempty := List.length_pos_iff.mpr (bare key List.mem_cons_self).nonempty
      cases path with
      | nil => exact nonempty
      | cons next path =>
          rw [writePath]
          · simp only [List.length_append, List.length_cons] at later ⊢
            omega
          · exact List.cons_ne_nil _ _

theorem readKey_writePath {path : List String} (some_key : path ≠ [])
    (bare : ∀ key ∈ path, IsBareKey key) {stop : Char} {rest : List Char}
    (ends : EndsKey stop rest) :
    readKey (writePath path ++ stop :: rest) = some (path, skipSpaces (stop :: rest)) := by
  apply readKeyParts_writePath some_key bare ends
  have shorter := length_le_length_writePath bare
  rw [List.length_append]
  omega

/-! ## Lines -/

inductive Line where
  | blank
  /-- The header of a table. -/
  | header (path : List String)
  /-- The header of one more table of a list. -/
  | row (path : List String)
  | pair (key : String) (value : Scalar)
  deriving DecidableEq, Repr

namespace Line

def write : Line → List Char
  | blank => ['\n']
  | header path => '[' :: (writePath path ++ [']', '\n'])
  | row path => '[' :: '[' :: (writePath path ++ [']', ']', '\n'])
  | pair key value => key.toList ++ ' ' :: '=' :: ' ' :: (value.write ++ ['\n'])

structure IsBarePath (path : List String) : Prop where
  nonempty : path ≠ []
  bare : ∀ key ∈ path, IsBareKey key

instance (path : List String) : Decidable (IsBarePath path) :=
  decidable_of_iff (path ≠ [] ∧ ∀ key ∈ path, IsBareKey key)
    ⟨fun ⟨nonempty, bare⟩ => ⟨nonempty, bare⟩, fun ⟨nonempty, bare⟩ => ⟨nonempty, bare⟩⟩

theorem IsBarePath.exists_first {path : List String} (bare : IsBarePath path) :
    ∃ first rest, writePath path = first :: rest ∧ isBare first = true := by
  cases path with
  | nil => exact absurd rfl bare.nonempty
  | cons key path =>
      rcases (bare.bare key List.mem_cons_self).exists_first with ⟨first, rest, written, isBare⟩
      cases path with
      | nil => exact ⟨first, rest, written, isBare⟩
      | cons next path =>
          refine ⟨first, rest ++ '.' :: writePath (next :: path), ?_, isBare⟩
          rw [writePath, written, List.cons_append]
          exact List.cons_ne_nil _ _

def Fits : Line → Prop
  | blank => True
  | header path | row path => IsBarePath path
  | pair key value => IsBareKey key ∧ value.Fits

instance : (line : Line) → Decidable line.Fits
  | blank => inferInstanceAs (Decidable True)
  | header path | row path => inferInstanceAs (Decidable (IsBarePath path))
  | pair key value => inferInstanceAs (Decidable (IsBareKey key ∧ value.Fits))

/-- A line does not start with white space or a byte order mark. -/
theorem Fits.exists_first {line : Line} (fits : line.Fits) :
    ∃ first rest, line.write = first :: rest ∧ isSpace first = false ∧ first ≠ byteOrderMark := by
  cases line with
  | blank => exact ⟨'\n', [], rfl, by decide, by decide⟩
  | header path => exact ⟨'[', _, rfl, by decide, by decide⟩
  | row path => exact ⟨'[', _, rfl, by decide, by decide⟩
  | pair key value =>
      rcases fits.1.exists_first with ⟨first, rest, written, bare⟩
      have starts : (pair key value).write =
          first :: (rest ++ ' ' :: '=' :: ' ' :: (value.write ++ ['\n'])) := by
        rw [write, written, List.cons_append]
      exact ⟨first, _, starts, isSpace_of_isBare bare, ne_of_isBare bare (by decide)⟩

/-- What a line does to the document before it. -/
def apply (document : Document) : Line → Option Document
  | blank => some document
  | header path => (document.entries.openTable path).map fun entries => ⟨entries, path⟩
  | row path => (document.entries.openRow path).map fun entries => ⟨entries, path⟩
  | pair key value =>
      (document.entries.assignUnder document.header [] key value.item).map fun entries =>
        { document with entries }

end Line

theorem endsKey_bracket (rest : List Char) : EndsKey ']' rest := by
  constructor
  · decide
  · rw [skipSpaces_cons (by decide)]
    simp

theorem endsKey_equals (rest : List Char) : EndsKey ' ' ('=' :: rest) := by
  constructor
  · decide
  · change (skipSpaces ('=' :: rest)).head? ≠ some '.'
    rw [skipSpaces_cons (by decide)]
    simp

theorem endLine?_newline (rest : List Char) : endLine? ('\n' :: rest) = some rest := rfl

namespace Document

theorem readHeader_write (document : Document) {path : List String} (bare : Line.IsBarePath path)
    (rest : List Char) :
    document.readHeader (writePath path ++ ']' :: '\n' :: rest) =
      (document.entries.openTable path).map fun entries => (⟨entries, path⟩, rest) := by
  have reads := readKey_writePath bare.nonempty bare.bare (endsKey_bracket ('\n' :: rest))
  rw [readHeader, reads, skipSpaces_cons (by decide)]
  simp only [Option.bind_eq_bind, Option.bind_some, readMark, beq_self_eq_true, if_true,
    endLine?_newline]
  cases document.entries.openTable path <;> rfl

theorem readRowHeader_write (document : Document) {path : List String}
    (bare : Line.IsBarePath path) (rest : List Char) :
    document.readRowHeader (writePath path ++ ']' :: ']' :: '\n' :: rest) =
      (document.entries.openRow path).map fun entries => (⟨entries, path⟩, rest) := by
  have reads := readKey_writePath bare.nonempty bare.bare (endsKey_bracket (']' :: '\n' :: rest))
  rw [readRowHeader, reads, skipSpaces_cons (by decide)]
  simp only [Option.bind_eq_bind, Option.bind_some, readMark, beq_self_eq_true, if_true,
    endLine?_newline]
  cases document.entries.openRow path <;> rfl

theorem readPair_write (document : Document) {key : String} {value : Scalar}
    (bareKey : IsBareKey key) (fits : value.Fits) (rest : List Char) :
    document.readPair (key.toList ++ ' ' :: '=' :: ' ' :: (value.write ++ '\n' :: rest)) =
      (document.entries.assignUnder document.header [] key value.item).map fun entries =>
        ({ document with entries }, rest) := by
  have reads := @readKey_writePath [key] (List.cons_ne_nil _ _) (by simpa using bareKey) _ _
    (endsKey_equals (' ' :: (value.write ++ '\n' :: rest)))
  have equals : skipSpaces (' ' :: '=' :: ' ' :: (value.write ++ '\n' :: rest)) =
      '=' :: ' ' :: (value.write ++ '\n' :: rest) := rfl
  have spaces : skipSpaces (' ' :: (value.write ++ '\n' :: rest)) = value.write ++ '\n' :: rest :=
    skipSpaces_write value _
  rw [writePath, equals] at reads
  rw [readPair, readDottedKey, reads]
  simp only [Option.bind_eq_bind, Option.bind_some, List.getLast?_singleton,
    List.dropLast_singleton, readMark, beq_self_eq_true, if_true, spaces, readValue_write fits,
    endLine?_newline]
  cases document.entries.assignUnder document.header [] key value.item <;> rfl

theorem readLine_of_bare (document : Document) {key : String} (bareKey : IsBareKey key)
    (rest : List Char) :
    document.readLine (key.toList ++ rest) = document.readPair (key.toList ++ rest) := by
  rcases bareKey.exists_first with ⟨first, later, written, bare⟩
  rw [written, List.cons_append]
  unfold readLine
  split
  case h_6 => rfl
  all_goals
    next equal => exact absurd (List.cons.inj equal).1 (ne_of_isBare bare (by decide))

theorem readLine_of_bracket (document : Document) {path : List String}
    (bare : Line.IsBarePath path) (rest : List Char) :
    document.readLine ('[' :: (writePath path ++ rest)) =
      document.readHeader (writePath path ++ rest) := by
  rcases bare.exists_first with ⟨first, later, written, bareFirst⟩
  rw [written, List.cons_append]
  unfold readLine
  split
  · next equal =>
      have second := (List.cons.inj (List.cons.inj equal).2).1
      exact absurd second (ne_of_isBare bareFirst (by decide))
  · next equal =>
      cases equal
      rfl
  · next equal => cases equal
  · next equal => cases equal
  · next equal => cases equal
  · next _ header _ _ _ => exact (header _ rfl).elim

/-- Reading a line does what it says. -/
theorem readLine_write (document : Document) {line : Line} (fits : line.Fits) (rest : List Char) :
    document.readLine (line.write ++ rest) = (line.apply document).map (·, rest) := by
  cases line with
  | blank => rfl
  | header path =>
      have header := document.readHeader_write fits rest
      simp only [Line.write, Line.apply, List.cons_append, List.append_assoc, List.nil_append,
        document.readLine_of_bracket fits, header]
      cases document.entries.openTable path <;> rfl
  | row path =>
      have row := document.readRowHeader_write fits rest
      simp only [Line.write, Line.apply, List.cons_append, List.append_assoc, List.nil_append,
        readLine, row]
      cases document.entries.openRow path <;> rfl
  | pair key value =>
      have pair := document.readPair_write fits.1 fits.2 rest
      simp only [Line.write, Line.apply, List.cons_append, List.append_assoc, List.nil_append,
        document.readLine_of_bare fits.1, pair]
      cases document.entries.assignUnder document.header [] key value.item <;> rfl

/-- The lines of a text are read in turn. -/
theorem readLines_write {lines : List Line} (fits : ∀ line ∈ lines, line.Fits) {bound : Nat}
    (enough : lines.length < bound) (document : Document) :
    readLines bound document (lines.flatMap Line.write) =
      (lines.foldlM Line.apply document).map Document.entries := by
  induction lines generalizing bound document with
  | nil =>
      cases bound with
      | zero => cases enough
      | succ bound => rfl
  | cons line lines induction =>
      cases bound with
      | zero => cases enough
      | succ bound =>
          have later (other : Line) (member : other ∈ lines) : other.Fits :=
            fits other (List.mem_cons_of_mem line member)
          have reads := induction later (Nat.lt_of_succ_lt_succ enough)
          have first := fits line List.mem_cons_self
          rcases first.exists_first with ⟨character, rest, written, solid, -⟩
          have starts : skipSpaces (line.write ++ lines.flatMap Line.write) =
              line.write ++ lines.flatMap Line.write := by
            rw [written]
            exact skipSpaces_cons solid _
          rw [List.flatMap_cons, readLines, starts, List.foldlM_cons]
          split
          · next empty =>
              rw [written] at empty
              cases empty
          · rw [document.readLine_write first]
            cases line.apply document with
            | none => rfl
            | some next => exact reads next

end Document

theorem length_le_length_write {lines : List Line} (fits : ∀ line ∈ lines, line.Fits) :
    lines.length ≤ (lines.flatMap Line.write).length := by
  induction lines with
  | nil => exact Nat.le_refl 0
  | cons line lines induction =>
      have later := induction fun other member => fits other (List.mem_cons_of_mem line member)
      rcases (fits line List.mem_cons_self).exists_first with ⟨first, rest, written, -⟩
      rw [List.flatMap_cons, written, List.length_append, List.length_cons, List.length_cons]
      omega

theorem read?_unmarked {characters : List Char} (unmarked : characters.head? ≠ some byteOrderMark) :
    read? (.ofList characters) =
      Document.readLines (characters.length + 1) ⟨[], []⟩ characters := by
  rw [read?, String.toList_ofList]
  cases characters with
  | nil => rfl
  | cons first rest =>
      have other : first ≠ byteOrderMark := by simpa using unmarked
      simp only [if_neg other]

/-- A document that is written line by line is read line by line. -/
theorem read?_write {lines : List Line} (fits : ∀ line ∈ lines, line.Fits) :
    read? (.ofList (lines.flatMap Line.write)) =
      (lines.foldlM Line.apply ⟨[], []⟩).map Document.entries := by
  have unmarked : (lines.flatMap Line.write).head? ≠ some byteOrderMark := by
    cases lines with
    | nil => simp
    | cons line lines =>
        rcases (fits line List.mem_cons_self).exists_first with ⟨first, rest, written, -, unmarked⟩
        rw [List.flatMap_cons, written]
        simpa using unmarked
  rw [read?_unmarked unmarked]
  exact Document.readLines_write fits (Nat.lt_succ_of_le (length_le_length_write fits)) ⟨[], []⟩

end Tenancy.Toml
