import Mathlib.Data.List.Nodup
import Tenancy.Proofs.Outcome
import Tenancy.Proofs.Settings.Field
import Tenancy.Settings.Environment

/-! The variables over the settings. Every variable has a field of its own, and taking it comes down
to setting that field. The first variable that cannot be taken is reported. -/

namespace Tenancy.Settings

namespace Kind

/-- Values of the kind are read off a text, which may fail. -/
def isParsed : Kind → Bool
  | truth | word16 | word32 | word64 | signed64 => true
  | text | directory | clusters => false

end Kind

namespace Variable

def field : Variable → Field
  | host => .host
  | port => .port
  | databaseUrl => .databaseUrl
  | maxConnections => .maxConnections
  | logLevel => .logLevel
  | logDirectory => .logDirectory
  | logJson => .logJson
  | secret => .secret
  | tokenHours => .tokenHours
  | maxPageSize => .maxPageSize
  | clusterTimeout => .clusterTimeout

theorem mem_all (key : Variable) : key ∈ all := by
  cases key <;> decide

theorem nodup_fields : (all.map field).Nodup := by
  decide

theorem field_injective {first second : Variable} (same : first.field = second.field) :
    first = second :=
  List.inj_on_of_nodup_map nodup_fields (mem_all first) (mem_all second) same

theorem name_injective {first second : Variable} (same : first.name = second.name) :
    first = second := by
  have once : (all.map name).Nodup := by decide
  exact List.inj_on_of_nodup_map once (mem_all first) (mem_all second) same

/-- The variable is set to a text that denotes no value of its field. -/
structure Refused (environment : Environment) (key : Variable) (given : String) : Prop where
  isSet : environment key.name = some given
  isParsed : key.field.kind.isParsed = true
  meaningless : ∀ value, ¬key.field.kind.Denotes given value

/-- The field of the variable has the value of the variable, if that is set. -/
def Taken (environment : Environment) (before after : Settings) (key : Variable) : Prop :=
  (environment key.name = none ∧ key.field.get after = key.field.get before) ∨
    ∃ given, environment key.name = some given ∧ key.field.kind.Denotes given (key.field.get after)

def refusal (key : Variable) (given : String) : SettingsError :=
  .invalid ("Invalid value for " ++ key.name ++ ": '" ++ given ++ "'")

theorem parsed_bind_eq_ok (key : Variable) (read : String → Option α) (next : α → Settings)
    {given : String} {value : α} (found : read (.ofList (Text.trim given.toList)) = some value) :
    (key.parsed read given >>= fun value => pure (next value)) = .ok (next value) := by
  rw [parsed, found]
  rfl

theorem parsed_bind_eq_error (key : Variable) (read : String → Option α) (next : α → Settings)
    {given : String} (absent : read (.ofList (Text.trim given.toList)) = none) :
    (key.parsed read given >>= fun value => pure (next value)) = .error (key.refusal given) := by
  rw [parsed, absent]
  rfl

theorem apply_of_ofText?_eq_some {key : Variable} {given : String} {value : key.field.Value}
    (found : key.field.kind.ofText? given = some value) (settings : Settings) :
    key.apply given settings = .ok (key.field.set settings value) := by
  cases key with
  | host | databaseUrl | logLevel | logDirectory | secret =>
      cases found
      rfl
  | port | maxConnections | logJson | tokenHours | maxPageSize | clusterTimeout =>
      -- the goal has to tell the reader before it is looked for in what is found
      refine parsed_bind_eq_ok _ _ _ ?_
      exact found

theorem apply_of_ofText?_eq_none {key : Variable} {given : String}
    (absent : key.field.kind.ofText? given = none) (settings : Settings) :
    key.apply given settings = .error (key.refusal given) := by
  cases key with
  | host | databaseUrl | logLevel | logDirectory | secret => cases absent
  | port | maxConnections | logJson | tokenHours | maxPageSize | clusterTimeout =>
      refine parsed_bind_eq_error _ _ _ ?_
      exact absent

theorem exists_denotes (key : Variable) (plain : key.field.kind.isParsed = false) (given : String) :
    ∃ value, key.field.kind.Denotes given value := by
  cases key with
  | host | databaseUrl | logLevel | secret => exact ⟨given, rfl⟩
  | logDirectory => exact ⟨some given, rfl⟩
  | port | maxConnections | logJson | tokenHours | maxPageSize | clusterTimeout => cases plain

theorem override_eq_ok_iff {environment : Environment} {before after : Settings} {key : Variable} :
    override environment before key = .ok after ↔
      (environment key.name = none ∧ after = before) ∨
        ∃ given value, environment key.name = some given ∧ key.field.kind.Denotes given value ∧
          after = key.field.set before value := by
  unfold override
  cases found : environment key.name with
  | none => simp [eq_comm]
  | some given =>
      simp only [← Kind.ofText?_eq_some_iff]
      cases read : key.field.kind.ofText? given with
      | none => simp [read, apply_of_ofText?_eq_none]
      | some value => simp [read, apply_of_ofText?_eq_some, eq_comm]

theorem override_eq_error_iff {environment : Environment} {before : Settings} {key : Variable}
    {fault : SettingsError} :
    override environment before key = .error fault ↔
      ∃ given, Refused environment key given ∧ fault = key.refusal given := by
  unfold override
  cases found : environment key.name with
  | none =>
      refine ⟨nofun, ?_⟩
      rintro ⟨given, refused, rfl⟩
      cases found.symm.trans refused.isSet
  | some given =>
      cases read : key.field.kind.ofText? given with
      | some value =>
          simp only [apply_of_ofText?_eq_some read]
          refine ⟨nofun, ?_⟩
          rintro ⟨_, refused, rfl⟩
          cases found.symm.trans refused.isSet
          exact absurd (key.field.kind.ofText?_eq_some_iff.mp read) (refused.meaningless value)
      | none =>
          have meaningless (value : key.field.Value) : ¬key.field.kind.Denotes given value := by
            intro denotes
            cases read.symm.trans (key.field.kind.ofText?_eq_some_iff.mpr denotes)
          have isParsed : key.field.kind.isParsed = true := by
            rw [← Bool.not_eq_false]
            intro plain
            rcases key.exists_denotes plain given with ⟨value, denotes⟩
            exact meaningless value denotes
          simp only [apply_of_ofText?_eq_none read]
          constructor
          · rintro ⟨⟩
            exact ⟨given, ⟨found, isParsed, meaningless⟩, rfl⟩
          · rintro ⟨_, refused, rfl⟩
            cases found.symm.trans refused.isSet
            rfl

/-! ## All variables, one after another -/

theorem foldlM_override_eq_ok_iff {environment : Environment} {keys : List Variable}
    (once : (keys.map field).Nodup) {before after : Settings} :
    keys.foldlM (override environment) before = .ok after ↔
      (∀ key ∈ keys, key.Taken environment before after) ∧
        ∀ other : Field, (∀ key ∈ keys, key.field ≠ other) → other.get after = other.get before := by
  induction keys generalizing before with
  | nil =>
      constructor
      · rintro ⟨⟩
        exact ⟨nofun, fun _ _ => rfl⟩
      · rintro ⟨-, kept⟩
        exact congrArg Except.ok (Field.eq_of_get fun other => (kept other nofun).symm)
  | cons key keys induction =>
      rw [List.map_cons, List.nodup_cons] at once
      have apart {later : Variable} (member : later ∈ keys) : later.field ≠ key.field := by
        intro same
        exact once.1 (same ▸ List.mem_map_of_mem member)
      simp only [List.foldlM_cons, bind_eq_ok, induction once.2, List.forall_mem_cons]
      constructor
      · rintro ⟨between, step, taken, kept⟩
        have others (other : Field) (different : key.field ≠ other) :
            other.get between = other.get before := by
          rcases override_eq_ok_iff.mp step with ⟨-, rfl⟩ | ⟨_, value, -, -, rfl⟩
          · rfl
          · exact Field.get_set_other before different.symm value
        have own : key.field.get after = key.field.get between :=
          kept key.field fun later member => apart member
        refine ⟨⟨?_, ?_⟩, ?_⟩
        · rcases override_eq_ok_iff.mp step with ⟨unset, rfl⟩ | ⟨given, value, isSet, denotes, rfl⟩
          · exact .inl ⟨unset, own⟩
          · rw [Field.get_set_same] at own
            exact .inr ⟨given, isSet, own ▸ denotes⟩
        · intro later member
          refine (taken later member).imp_left fun unset => ⟨unset.1, ?_⟩
          exact unset.2.trans (others _ (apart member).symm)
        · rintro other ⟨different, later⟩
          exact (kept other later).trans (others other different)
      · rintro ⟨⟨own, taken⟩, kept⟩
        -- the settings in between differ from those before in the field of the variable alone
        refine ⟨key.field.set before (key.field.get after), ?_, ?_, ?_⟩
        · rcases own with ⟨unset, same⟩ | ⟨given, isSet, denotes⟩
          · refine override_eq_ok_iff.mpr (.inl ⟨unset, Field.eq_of_get fun other => ?_⟩)
            by_cases different : other = key.field
            · subst different
              rw [Field.get_set_same, same]
            · exact Field.get_set_other before different _
          · exact override_eq_ok_iff.mpr (.inr ⟨given, _, isSet, denotes, rfl⟩)
        · intro later member
          refine (taken later member).imp_left fun unset => ⟨unset.1, unset.2.trans ?_⟩
          exact (Field.get_set_other before (apart member) _).symm
        · intro other later
          by_cases different : key.field = other
          · subst different
            rw [Field.get_set_same]
          · rw [Field.get_set_other before (Ne.symm different)]
            exact kept other ⟨different, later⟩

/-- No variable before this one in the list is refused. -/
structure FirstRefused (environment : Environment) (keys : List Variable) (key : Variable)
    (given : String) : Prop where
  refused : Refused environment key given
  first : ∃ before after, keys = before ++ key :: after ∧
    ∀ earlier ∈ before, ∀ given, ¬Refused environment earlier given

theorem foldlM_override_eq_error_iff {environment : Environment} {keys : List Variable}
    {before : Settings} {fault : SettingsError} :
    keys.foldlM (override environment) before = .error fault ↔
      ∃ key given, FirstRefused environment keys key given ∧ fault = key.refusal given := by
  rw [foldlM_eq_error_iff (override environment) fun _ _ _ => override_eq_error_iff]
  constructor
  · rintro ⟨front, key, back, split, fine, given, refused, rfl⟩
    refine ⟨key, given, ⟨refused, front, back, split, ?_⟩, rfl⟩
    exact fun earlier member given refused => fine earlier member _ ⟨given, refused, rfl⟩
  · rintro ⟨key, given, ⟨refused, front, back, split, fine⟩, rfl⟩
    refine ⟨front, key, back, split, ?_, given, refused, rfl⟩
    rintro earlier member other ⟨given, refused, -⟩
    exact fine earlier member given refused

end Variable

/-! ## Fields -/

/-- The field has the value of its variable, or else that of the settings it is taken from. -/
def Overridden (environment : Environment) (base : Settings) (field : Field)
    (value : field.Value) : Prop :=
  (∃ (key : Variable) (given : String), key.field = field ∧ environment key.name = some given ∧
    field.kind.Denotes given value) ∨
  ((∀ key : Variable, key.field = field → environment key.name = none) ∧ value = field.get base)

theorem override_eq_ok_iff {environment : Environment} {base settings : Settings} :
    override environment base = .ok settings ↔
      ∀ field : Field, Overridden environment base field (field.get settings) := by
  rw [override, Variable.foldlM_override_eq_ok_iff Variable.nodup_fields]
  simp only [Variable.mem_all, true_implies]
  constructor
  · rintro ⟨taken, kept⟩ field
    by_cases own : ∃ key : Variable, key.field = field
    · rcases own with ⟨key, rfl⟩
      rcases taken key with ⟨unset, same⟩ | ⟨given, isSet, denoted⟩
      · refine .inr ⟨fun other same => ?_, same⟩
        rw [Variable.field_injective same, unset]
      · exact .inl ⟨key, given, rfl, isSet, denoted⟩
    · refine .inr ⟨fun key same => absurd ⟨key, same⟩ own, kept field fun key same => ?_⟩
      exact own ⟨key, same⟩
  · intro overridden
    refine ⟨fun key => ?_, fun field none => ?_⟩
    · rcases overridden key.field with ⟨other, given, same, isSet, denoted⟩ | ⟨unset, same⟩
      · cases Variable.field_injective same
        exact .inr ⟨given, isSet, denoted⟩
      · exact .inl ⟨unset key rfl, same⟩
    · rcases overridden field with ⟨key, _, same, -⟩ | ⟨-, same⟩
      · exact absurd same (none key)
      · exact same

theorem override_eq_error_iff {environment : Environment} {base : Settings} {fault : SettingsError} :
    override environment base = .error fault ↔
      ∃ key given, Variable.FirstRefused environment Variable.all key given ∧
        fault = key.refusal given :=
  Variable.foldlM_override_eq_error_iff

theorem Overridden.unique {environment other : Environment} {base : Settings} {field : Field}
    (same : ∀ key : Variable, key.field = field → other key.name = environment key.name)
    {value otherValue : field.Value} (first : Overridden environment base field value)
    (second : Overridden other base field otherValue) : otherValue = value := by
  rcases first with ⟨key, given, own, isSet, denoted⟩ | ⟨unset, rfl⟩
  · rw [← same key own] at isSet
    rcases second with ⟨otherKey, _, otherOwn, isSetThere, denotedThere⟩ | ⟨unset, -⟩
    · cases Variable.field_injective (own.trans otherOwn.symm)
      cases isSet.symm.trans isSetThere
      exact denotedThere.unique denoted
    · cases (unset key own).symm.trans isSet
  · rcases second with ⟨otherKey, _, otherOwn, isSetThere, -⟩ | ⟨-, rfl⟩
    · rw [same otherKey otherOwn, unset otherKey otherOwn] at isSetThere
      cases isSetThere
    · rfl

end Tenancy.Settings
