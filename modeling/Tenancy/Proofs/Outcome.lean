/-! One step after another, where the second is reached only when the first succeeds. -/

namespace Tenancy

variable {fault α β : Type} {value : β} {refusal : fault}
variable {first : Except fault α} {next : α → Except fault β}

theorem bind_eq_ok :
    (first >>= next) = .ok value ↔ ∃ result, first = .ok result ∧ next result = .ok value := by
  cases first with
  | error other => exact ⟨nofun, nofun⟩
  | ok result =>
      constructor
      · exact fun done => ⟨result, rfl, done⟩
      · rintro ⟨_, same, done⟩
        cases same
        exact done

theorem bind_eq_error : (first >>= next) = .error refusal ↔
    first = .error refusal ∨ ∃ result, first = .ok result ∧ next result = .error refusal := by
  cases first with
  | error other =>
      constructor
      · exact fun refused => .inl (congrArg Except.error (Except.error.inj refused))
      · rintro (⟨⟨⟩⟩ | ⟨_, ⟨⟩, _⟩)
        rfl
  | ok result =>
      constructor
      · exact fun refused => .inr ⟨result, rfl, refused⟩
      · rintro (⟨⟨⟩⟩ | ⟨_, same, refused⟩)
        cases same
        exact refused

theorem map_eq_ok {transform : α → β} :
    first.map transform = .ok value ↔ ∃ given, first = .ok given ∧ transform given = value := by
  cases first with
  | error other => exact ⟨nofun, nofun⟩
  | ok given => simp only [Except.map, Except.ok.injEq, exists_eq_left']

theorem mapError_eq_error {other : Type} {reword : fault → other} {reworded : other} :
    first.mapError reword = .error reworded ↔
      ∃ given, first = .error given ∧ reword given = reworded := by
  cases first with
  | error given =>
      constructor
      · rintro ⟨⟩
        exact ⟨given, rfl, rfl⟩
      · rintro ⟨_, ⟨⟩, rfl⟩
        rfl
  | ok given => exact ⟨nofun, nofun⟩

theorem mapError_eq_ok {other : Type} {reword : fault → other} {given : α} :
    first.mapError reword = .ok given ↔ first = .ok given := by
  cases first with
  | error refused => exact ⟨nofun, nofun⟩
  | ok found => exact ⟨fun done => congrArg Except.ok (Except.ok.inj done), congrArg _⟩

theorem unless_eq_ok {wrong : Prop} [Decidable wrong] {rest : Except fault β} :
    (if wrong then (throw refusal : Except fault α) >>= next else rest) = .ok value ↔
      ¬wrong ∧ rest = .ok value := by
  by_cases holds : wrong
  · rw [if_pos holds]
    exact ⟨nofun, fun others => absurd holds others.1⟩
  · rw [if_neg holds]
    exact ⟨fun done => ⟨holds, done⟩, And.right⟩

/-- Where it does not depend on the state whether a step fails, the first item to fail decides. -/
theorem foldlM_eq_error_iff {state item : Type} (step : state → item → Except fault state)
    {Fails : item → fault → Prop}
    (step_eq_error : ∀ before item refusal, step before item = .error refusal ↔ Fails item refusal)
    {items : List item} {before : state} :
    items.foldlM step before = .error refusal ↔
      ∃ front item back, items = front ++ item :: back ∧
        (∀ earlier ∈ front, ∀ other, ¬Fails earlier other) ∧ Fails item refusal := by
  induction items generalizing before with
  | nil =>
      refine ⟨nofun, ?_⟩
      rintro ⟨front, _, _, split, -⟩
      cases front <;> cases split
  | cons head items induction =>
      simp only [List.foldlM_cons, bind_eq_error, induction, step_eq_error]
      constructor
      · rintro (fails | ⟨between, done, front, item, back, rfl, fine, fails⟩)
        · exact ⟨[], head, items, rfl, nofun, fails⟩
        · refine ⟨head :: front, item, back, rfl, ?_, fails⟩
          rw [List.forall_mem_cons]
          refine ⟨fun other failed => ?_, fine⟩
          cases done.symm.trans ((step_eq_error before head other).mpr failed)
      · rintro ⟨front, item, back, split, fine, fails⟩
        cases front with
        | nil =>
            cases split
            exact .inl fails
        | cons _ front =>
            cases split
            rw [List.forall_mem_cons] at fine
            cases done : step before head with
            | error other => exact absurd ((step_eq_error before head other).mp done) (fine.1 other)
            | ok between => exact .inr ⟨between, rfl, front, item, back, rfl, fine.2, fails⟩

end Tenancy
