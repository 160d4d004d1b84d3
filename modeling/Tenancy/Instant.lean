import Tenancy.Calendar

/-! Instants in UTC, to the nanosecond. The nanoseconds of a leap second run on past the end of the
last second of its minute. -/

namespace Tenancy

namespace Instant

/-- 1 January of the year -262143, and the last second of the year 262142. -/
def earliestSecond : Int := -8334601228800

def latestSecond : Int := 8210266876799

def Valid (seconds : Int) (nanos : Nat) : Prop :=
  earliestSecond ≤ seconds ∧ seconds ≤ latestSecond ∧
    (nanos < 1000000000 ∨ (nanos < 2000000000 ∧ seconds % 60 = 59))

instance (seconds : Int) (nanos : Nat) : Decidable (Valid seconds nanos) :=
  inferInstanceAs (Decidable (_ ∧ _ ∧ _))

end Instant

structure Instant where
  seconds : Int
  nanos : Nat
  valid : Instant.Valid seconds nanos
  deriving DecidableEq

namespace Instant

def ofParts? (seconds : Int) (nanos : Nat) : Option Instant :=
  if valid : Valid seconds nanos then some ⟨seconds, nanos, valid⟩ else none

theorem ofParts?_parts (instant : Instant) :
    ofParts? instant.seconds instant.nanos = some instant := by
  simp [ofParts?, instant.valid]

def epoch : Instant := ⟨0, 0, by decide⟩

instance : Inhabited Instant := ⟨epoch⟩

/-- Outside a leap second the nanoseconds stay below one second. -/
def isLeap (instant : Instant) : Bool :=
  1000000000 ≤ instant.nanos

/-! Instants are ordered by second, then by nanosecond. -/

def compare (left right : Instant) : Ordering :=
  (Ord.compare left.seconds right.seconds).then (Ord.compare left.nanos right.nanos)

instance : Ord Instant := ⟨compare⟩

instance : LT Instant := ltOfOrd

instance : LE Instant := leOfOrd

/-! Whole milliseconds since the epoch, rounded down. -/

def millis (instant : Instant) : Int :=
  instant.seconds * 1000 + (instant.nanos / 1000000 : Nat)

def ofMillis? (millis : Int) : Option Instant :=
  ofParts? (millis / 1000) ((millis % 1000).toNat * 1000000)

/-- The instant of a stored count of milliseconds; a count no instant has stands for the epoch. -/
def ofStoredMillis (millis : Int) : Instant :=
  (ofMillis? millis).getD epoch

example : (ofStoredMillis (-1)).seconds = -1 ∧ (ofStoredMillis (-1)).nanos = 999000000 := by decide

end Instant

end Tenancy
