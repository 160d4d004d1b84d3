import Tenancy.Proofs.Settings.Override
import Tenancy.Settings.Load

/-! Where each setting comes from: the variable of its field, or else the first settings file there
is, or else the default. -/

namespace Tenancy.Settings

open Tenancy.Files Tenancy.Toml

/-! ## Files -/

/-- The places of a settings file, the one that a variable names before the others. -/
def places (environment : Environment) : List String :=
  (environment "NSREGISTRY_CONFIG").toList ++
    ["/etc/nsregistry/config.toml", "./config.toml", "./nsregistry.toml"]

structure FirstThere (files : Tree) (environment : Environment) (path : String) : Prop where
  isThere : files.isThere path = true
  first : ∃ before after, places environment = before ++ path :: after ∧
    ∀ earlier ∈ before, files.isThere earlier = false

def NoneThere (files : Tree) (environment : Environment) : Prop :=
  ∀ path ∈ places environment, files.isThere path = false

/-- The document that the settings are read from. Without a file it is empty. -/
inductive Source (files : Tree) (environment : Environment) : Entries → Prop where
  | file {path text : String} {entries : Entries} (first : FirstThere files environment path)
      (readable : files.readText path = .ok text) (parsed : Toml.read? text = some entries) :
      Source files environment entries
  | nowhere (absent : NoneThere files environment) : Source files environment []

/-- Whatever the document has for a field is of the kind of the field. -/
structure WellFormed (entries : Entries) : Prop where
  sectioned : Field.Sectioned entries
  typed : ∀ (field : Field) item, field.given entries = some item →
    ∃ value, field.kind.Gives item value

theorem file?_eq_some_iff {files : Tree} {environment : Environment} {path : String} :
    file? files environment = some path ↔ FirstThere files environment path := by
  rw [file?, List.find?_eq_some_iff_append]
  simp only [Bool.not_eq_true']
  exact ⟨fun found => ⟨found.1, found.2⟩, fun first => ⟨first.isThere, first.first⟩⟩

theorem file?_eq_none_iff {files : Tree} {environment : Environment} :
    file? files environment = none ↔ NoneThere files environment := by
  rw [file?, List.find?_eq_none]
  exact forall₂_congr fun _ _ => Iff.of_eq (Bool.not_eq_true _)

theorem exists_held_iff (field : Field) (item : Option Item) :
    (∃ value, field.Held item value) ↔
      ∀ given, item = some given → ∃ value, field.kind.Gives given value := by
  cases item with
  | none => exact ⟨fun _ => nofun, fun _ => ⟨field.get default, .inl ⟨rfl, rfl⟩⟩⟩
  | some given => simp [Field.Held]

theorem exists_ofEntries?_iff {entries : Entries} :
    (∃ settings, ofEntries? entries = some settings) ↔ WellFormed entries := by
  simp only [Field.ofEntries?_eq_some_iff]
  constructor
  · rintro ⟨settings, sectioned, held⟩
    exact ⟨sectioned, fun field => (exists_held_iff field _).mp ⟨_, held field⟩⟩
  · rintro ⟨sectioned, typed⟩
    choose values held using fun field => (exists_held_iff field _).mpr (typed field)
    refine ⟨Field.build values, sectioned, fun field => ?_⟩
    rw [Field.get_build]
    exact held field

theorem ofToml_eq_ok_iff {text : String} {settings : Settings} :
    ofToml text = .ok settings ↔
      ∃ entries, Toml.read? text = some entries ∧ ofEntries? entries = some settings := by
  rw [ofToml, ← Option.bind_eq_some_iff]
  cases (Toml.read? text).bind ofEntries? <;> simp

theorem ofToml_eq_error_iff {text : String} {fault : SettingsError} :
    ofToml text = .error fault ↔
      fault = .malformed ∧ ∀ entries, Toml.read? text = some entries → ¬WellFormed entries := by
  have none_iff : (Toml.read? text).bind ofEntries? = none ↔
      ∀ entries, Toml.read? text = some entries → ¬WellFormed entries := by
    rw [Option.bind_eq_none_iff]
    simp only [← exists_ofEntries?_iff, not_exists, Option.eq_none_iff_forall_ne_some, ne_eq]
  rw [ofToml, ← none_iff]
  cases (Toml.read? text).bind ofEntries? <;> simp [eq_comm]

theorem loadFile_eq_ok_iff {files : Tree} {path : String} {settings : Settings} :
    loadFile files path = .ok settings ↔
      ∃ text, files.readText path = .ok text ∧ ofToml text = .ok settings := by
  unfold loadFile
  cases files.readText path <;> simp

theorem loadFile_eq_error_iff {files : Tree} {path : String} {fault : SettingsError} :
    loadFile files path = .error fault ↔
      (∃ cause, files.readText path = .error cause ∧ fault = .unreadable path cause.text) ∨
        ∃ text, files.readText path = .ok text ∧ ofToml text = .error fault := by
  unfold loadFile
  cases files.readText path <;> simp [eq_comm]

theorem fromFile_eq_ok_iff {files : Tree} {environment : Environment} {settings : Settings} :
    fromFile files environment = .ok settings ↔
      ∃ entries, Source files environment entries ∧ ofEntries? entries = some settings := by
  unfold fromFile
  cases found : file? files environment with
  | none =>
      constructor
      · rintro ⟨⟩
        exact ⟨[], .nowhere (file?_eq_none_iff.mp found), rfl⟩
      · rintro ⟨_, source, read⟩
        cases source with
        | file first => cases found.symm.trans (file?_eq_some_iff.mpr first)
        | nowhere absent =>
            cases read
            rfl
  | some path =>
      simp only [loadFile_eq_ok_iff, ofToml_eq_ok_iff]
      constructor
      · rintro ⟨text, readable, entries, parsed, read⟩
        exact ⟨entries, .file (file?_eq_some_iff.mp found) readable parsed, read⟩
      · rintro ⟨entries, source, read⟩
        cases source with
        | file first readable parsed =>
            cases found.symm.trans (file?_eq_some_iff.mpr first)
            exact ⟨_, readable, entries, parsed, read⟩
        | nowhere absent => cases found.symm.trans (file?_eq_none_iff.mpr absent)

/-- What keeps settings from being read off the file there is. -/
theorem fromFile_eq_error_iff {files : Tree} {environment : Environment} {fault : SettingsError} :
    fromFile files environment = .error fault ↔
      ∃ path, FirstThere files environment path ∧
        ((∃ cause, files.readText path = .error cause ∧ fault = .unreadable path cause.text) ∨
          ∃ text, files.readText path = .ok text ∧ fault = .malformed ∧
            ∀ entries, Toml.read? text = some entries → ¬WellFormed entries) := by
  unfold fromFile
  simp only [← file?_eq_some_iff]
  cases file? files environment with
  | none => simp
  | some path => simp [loadFile_eq_error_iff, ofToml_eq_error_iff]

/-! ## Settings

A variable counts before the document, and the document before the default. -/

inductive Resolved (environment : Environment) (entries : Entries) (field : Field)
    (value : field.Value) : Prop where
  | variable {key : Variable} {given : String} (own : key.field = field)
      (isSet : environment key.name = some given) (denoted : field.kind.Denotes given value)
  | document {item : Item}
      (unset : ∀ key : Variable, key.field = field → environment key.name = none)
      (found : field.given entries = some item) (given : field.kind.Gives item value)
  | default (unset : ∀ key : Variable, key.field = field → environment key.name = none)
      (absent : field.given entries = none) (same : value = field.get default)

theorem resolved_iff {environment : Environment} {entries : Entries} {base : Settings}
    (read : ofEntries? entries = some base) (field : Field) (value : field.Value) :
    Resolved environment entries field value ↔ Overridden environment base field value := by
  have held := (Field.ofEntries?_eq_some_iff.mp read).2 field
  constructor
  · rintro (⟨own, isSet, denoted⟩ | ⟨unset, found, given⟩ | ⟨unset, absent, same⟩)
    · exact .inl ⟨_, _, own, isSet, denoted⟩
    · exact .inr ⟨unset, Field.Held.unique (.inr ⟨_, found, given⟩) held⟩
    · exact .inr ⟨unset, Field.Held.unique (.inl ⟨absent, same⟩) held⟩
  · rintro (⟨key, given, own, isSet, denoted⟩ | ⟨unset, rfl⟩)
    · exact .variable own isSet denoted
    · rcases held with ⟨absent, same⟩ | ⟨item, found, given⟩
      · exact .default unset absent same
      · exact .document unset found given

theorem load_eq_ok_iff {files : Tree} {environment : Environment} {settings : Settings} :
    load files environment = .ok settings ↔
      ∃ entries, Source files environment entries ∧ WellFormed entries ∧
        ∀ field : Field, Resolved environment entries field (field.get settings) := by
  simp only [load, bind_eq_ok, fromFile_eq_ok_iff, override_eq_ok_iff]
  constructor
  · rintro ⟨base, ⟨entries, source, read⟩, overridden⟩
    refine ⟨entries, source, exists_ofEntries?_iff.mp ⟨base, read⟩, fun field => ?_⟩
    exact (resolved_iff read field _).mpr (overridden field)
  · rintro ⟨entries, source, wellFormed, resolved⟩
    rcases exists_ofEntries?_iff.mpr wellFormed with ⟨base, read⟩
    exact ⟨base, ⟨entries, source, read⟩, fun field => (resolved_iff read field _).mp (resolved field)⟩

theorem load_eq_error_iff {files : Tree} {environment : Environment} {fault : SettingsError} :
    load files environment = .error fault ↔
      fromFile files environment = .error fault ∨
        (∃ entries, Source files environment entries ∧ WellFormed entries) ∧
          ∃ key given, Variable.FirstRefused environment Variable.all key given ∧
            fault = key.refusal given := by
  simp only [load, bind_eq_error, fromFile_eq_ok_iff, override_eq_error_iff,
    ← exists_ofEntries?_iff]
  refine or_congr_right ⟨?_, ?_⟩
  · rintro ⟨base, ⟨entries, source, read⟩, refused⟩
    exact ⟨⟨entries, source, base, read⟩, refused⟩
  · rintro ⟨⟨entries, source, base, read⟩, refused⟩
    exact ⟨base, ⟨entries, source, read⟩, refused⟩

theorem fromFile_ne_invalid {files : Tree} {environment : Environment} (text : String) :
    fromFile files environment ≠ .error (.invalid text) := by
  intro failed
  rcases fromFile_eq_error_iff.mp failed with ⟨_, -, ⟨_, -, ⟨⟩⟩ | ⟨_, -, ⟨⟩, -⟩⟩

theorem load_eq_invalid_iff {files : Tree} {environment : Environment} {text : String} :
    load files environment = .error (.invalid text) ↔
      (∃ entries, Source files environment entries ∧ WellFormed entries) ∧
        ∃ key given, Variable.FirstRefused environment Variable.all key given ∧
          text = "Invalid value for " ++ key.name ++ ": '" ++ given ++ "'" := by
  rw [load_eq_error_iff, or_iff_right (fromFile_ne_invalid text)]
  simp only [Variable.refusal, SettingsError.invalid.injEq]

theorem exists_invalid_iff {files : Tree} {environment : Environment} :
    (∃ text, load files environment = .error (.invalid text)) ↔
      (∃ entries, Source files environment entries ∧ WellFormed entries) ∧
        ∃ key given, Variable.Refused environment key given := by
  constructor
  · rintro ⟨text, failed⟩
    rcases load_eq_invalid_iff.mp failed with ⟨readable, key, given, ⟨refused, -⟩, -⟩
    exact ⟨readable, key, given, refused⟩
  · rintro ⟨⟨entries, source, wellFormed⟩, key, given, refused⟩
    rcases exists_ofEntries?_iff.mpr wellFormed with ⟨base, read⟩
    have fromFile := fromFile_eq_ok_iff.mpr ⟨entries, source, read⟩
    cases outcome : override environment base with
    | ok settings =>
        -- the field of the variable would have a value that its text denotes
        rcases override_eq_ok_iff.mp outcome key.field with
          ⟨other, _, same, isSet, denoted⟩ | ⟨unset, -⟩
        · cases Variable.field_injective same
          cases isSet.symm.trans refused.isSet
          exact absurd denoted (refused.meaningless _)
        · cases (unset key rfl).symm.trans refused.isSet
    | error fault =>
        rcases override_eq_error_iff.mp outcome with ⟨key, given, first, rfl⟩
        exact ⟨_, load_eq_invalid_iff.mpr ⟨⟨entries, source, wellFormed⟩, key, given, first, rfl⟩⟩

theorem Variable.name_ne_fileVariable (key : Variable) : key.name ≠ fileVariable := by
  cases key <;> decide

/-- A variable that is not the one that names a file leaves what is read from files. -/
theorem fromFile_congr {files : Tree} {environment other : Environment}
    (same : other fileVariable = environment fileVariable) :
    fromFile files other = fromFile files environment := by
  rw [fromFile, file?, filePaths, same]
  rfl

/-- A variable makes a difference to its own field alone. -/
theorem load_apart {files : Tree} {environment other : Environment} {key : Variable}
    (same : ∀ name, name ≠ key.name → other name = environment name)
    {settings otherSettings : Settings} (loaded : load files environment = .ok settings)
    (otherLoaded : load files other = .ok otherSettings) {field : Field}
    (different : field ≠ key.field) : field.get otherSettings = field.get settings := by
  rcases bind_eq_ok.mp loaded with ⟨base, fromFile, overridden⟩
  rcases bind_eq_ok.mp otherLoaded with ⟨otherBase, otherFromFile, otherOverridden⟩
  rw [fromFile_congr (same _ key.name_ne_fileVariable.symm), fromFile] at otherFromFile
  cases otherFromFile
  refine Overridden.unique (fun own isOwn => same _ fun equal => different ?_)
    (override_eq_ok_iff.mp overridden field) (override_eq_ok_iff.mp otherOverridden field)
  rw [← isOwn, Variable.name_injective equal]

/-- What settings are loaded, and what is reported where none are. -/
structure Resolves (files : Tree) (environment : Environment) : Prop where
  loaded : ∀ settings, load files environment = .ok settings ↔
    ∃ entries, Source files environment entries ∧ WellFormed entries ∧
      ∀ field : Field, Resolved environment entries field (field.get settings)
  invalid : ∀ text, load files environment = .error (.invalid text) ↔
    (∃ entries, Source files environment entries ∧ WellFormed entries) ∧
      ∃ key given, Variable.FirstRefused environment Variable.all key given ∧
        text = "Invalid value for " ++ key.name ++ ": '" ++ given ++ "'"
  exists_invalid : (∃ text, load files environment = .error (.invalid text)) ↔
    (∃ entries, Source files environment entries ∧ WellFormed entries) ∧
      ∃ key given, Variable.Refused environment key given
  file : ∀ fault, (∀ text, fault ≠ .invalid text) → (load files environment = .error fault ↔
    ∃ path, FirstThere files environment path ∧
      ((∃ cause, files.readText path = .error cause ∧ fault = .unreadable path cause.text) ∨
        ∃ text, files.readText path = .ok text ∧ fault = .malformed ∧
          ∀ entries, Toml.read? text = some entries → ¬WellFormed entries))
  apart : ∀ (key : Variable) (other : Environment),
    (∀ name, name ≠ key.name → other name = environment name) →
    ∀ settings otherSettings, load files environment = .ok settings →
      load files other = .ok otherSettings →
      ∀ field : Field, field ≠ key.field → field.get otherSettings = field.get settings

theorem every_field_has_its_source (files : Tree) (environment : Environment) :
    Resolves files environment := by
  refine ⟨fun _ => load_eq_ok_iff, fun _ => load_eq_invalid_iff, exists_invalid_iff, ?_, ?_⟩
  · intro fault notInvalid
    rw [load_eq_error_iff, ← fromFile_eq_error_iff]
    refine or_iff_left ?_
    rintro ⟨-, key, given, -, refused⟩
    exact notInvalid _ refused
  · intro key other same settings otherSettings loaded otherLoaded field different
    exact load_apart same loaded otherLoaded different

/-! A port from a variable, over that of the first file there is; the rest is as it was. -/

example :
    let content := "[server]\nport = 80\nhost = \"::1\"\n".toUTF8.data.toList
    let files : Tree := ⟨[(["config.toml"], .file content)], []⟩
    let environment : Environment := fun name => if name = "NSREGISTRY_PORT" then some " +99\t" else none
    load files environment = .ok { default with server := ⟨"::1", 99⟩ } := by
  decide +kernel

end Tenancy.Settings
