import Tenancy.Instant

/-! Instants compared part by part, and instants that are kept in milliseconds and read back. -/

namespace Tenancy.Instant

theorem eq_iff (left right : Instant) :
    left = right ↔ left.seconds = right.seconds ∧ left.nanos = right.nanos := by
  cases left
  cases right
  simp

theorem lt_iff (left right : Instant) :
    left < right ↔ left.seconds < right.seconds ∨
      (left.seconds = right.seconds ∧ left.nanos < right.nanos) := by
  change left.compare right = .lt ↔ _
  rw [compare, Ordering.then_eq_lt, Int.compare_eq_lt, Int.compare_eq_eq, Nat.compare_eq_lt]

theorem le_iff (left right : Instant) :
    left ≤ right ↔ left.seconds < right.seconds ∨
      (left.seconds = right.seconds ∧ left.nanos ≤ right.nanos) := by
  change (left.compare right).isLE = true ↔ _
  rw [compare, Ordering.isLE_then_iff_or, Int.compare_eq_lt, Int.compare_eq_eq, Nat.isLE_compare]

theorem le_of_lt {left right : Instant} (lt : left < right) : left ≤ right := by
  rw [lt_iff] at lt
  rw [le_iff]
  omega

theorem not_le_of_lt {left right : Instant} (lt : left < right) : ¬right ≤ left := by
  rw [lt_iff] at lt
  rw [le_iff]
  omega

/-! ## Milliseconds -/

/-- Nothing is lost when such an instant is kept in milliseconds. -/
structure WholeMillis (instant : Instant) : Prop where
  whole : instant.nanos % 1000000 = 0
  unleaped : instant.isLeap = false

instance (instant : Instant) : Decidable instant.WholeMillis :=
  decidable_of_iff (instant.nanos % 1000000 = 0 ∧ instant.isLeap = false)
    ⟨fun parts => ⟨parts.1, parts.2⟩, fun whole => ⟨whole.whole, whole.unleaped⟩⟩

/-- The calendar ends long before 64 bits are full. -/
theorem toInt_ofInt_millis (instant : Instant) :
    (Int64.ofInt instant.millis).toInt = instant.millis := by
  rcases instant with ⟨seconds, nanos, valid⟩
  have bounds := valid
  simp only [Valid, earliestSecond, latestSecond] at bounds
  apply Int64.toInt_ofInt_of_le
  · simp only [millis]
    omega
  · simp only [millis]
    omega

/-! ### Rounding down -/

/-- Past its last whole millisecond an instant is cut off. -/
def truncated (instant : Instant) : Instant where
  seconds := instant.seconds
  nanos := instant.nanos / 1000000 * 1000000
  valid := by
    have cut := Nat.div_mul_le_self instant.nanos 1000000
    rcases instant.valid with ⟨earliest, latest, within⟩
    exact ⟨earliest, latest, by omega⟩

variable {instant : Instant}

theorem truncated_seconds : instant.truncated.seconds = instant.seconds := rfl

theorem truncated_nanos : instant.truncated.nanos = instant.nanos / 1000000 * 1000000 := rfl

/-- The latest instant in whole milliseconds that is not past another. -/
structure RoundsDown (instant kept : Instant) : Prop where
  whole : kept.WholeMillis
  le : kept ≤ instant
  greatest : ∀ other : Instant, other.WholeMillis → other ≤ instant → other ≤ kept

theorem roundsDown_truncated (unleaped : instant.isLeap = false) :
    instant.RoundsDown instant.truncated := by
  have below : instant.nanos < 1000000000 := by simpa [isLeap] using unleaped
  have cut := Nat.div_mul_le_self instant.nanos 1000000
  constructor
  · refine ⟨Nat.mul_mod_left _ _, decide_eq_false ?_⟩
    rw [truncated_nanos]
    omega
  · rw [le_iff, truncated_seconds, truncated_nanos]
    exact .inr ⟨rfl, cut⟩
  · intro other whole le
    have nanos := whole.whole
    rw [le_iff] at le
    rw [le_iff, truncated_seconds, truncated_nanos]
    omega

theorem RoundsDown.mono {left right keptLeft keptRight : Instant}
    (roundsLeft : left.RoundsDown keptLeft) (roundsRight : right.RoundsDown keptRight)
    (le : left ≤ right) : keptLeft ≤ keptRight := by
  have notPast := roundsLeft.le
  apply roundsRight.greatest keptLeft roundsLeft.whole
  rw [le_iff] at notPast le ⊢
  omega

/-- What is kept of an instant is an instant again, to both ends of the calendar. -/
theorem ofMillis?_millis (unleaped : instant.isLeap = false) :
    ofMillis? instant.millis = some instant.truncated := by
  have below : instant.nanos < 1000000000 := by simpa [isLeap] using unleaped
  have seconds : instant.millis / 1000 = instant.truncated.seconds := by
    rw [millis, truncated_seconds]
    omega
  have rest : (instant.millis % 1000).toNat * 1000000 = instant.truncated.nanos := by
    rw [millis, truncated_nanos]
    omega
  rw [ofMillis?, seconds, rest, ofParts?_parts]

theorem truncated_of_wholeMillis (whole : instant.WholeMillis) : instant.truncated = instant := by
  have nanos := whole.whole
  rw [eq_iff, truncated_seconds, truncated_nanos]
  omega

theorem ofStoredMillis_millis (whole : instant.WholeMillis) :
    ofStoredMillis instant.millis = instant := by
  rw [ofStoredMillis, ofMillis?_millis whole.unleaped, Option.getD_some,
    truncated_of_wholeMillis whole]

end Tenancy.Instant
