import Lifecycle.AuditStamps
import Lifecycle.Table

/-! Clocks whose readings are numbered. A clock is shared by everybody who holds it: the next
reading is taken from where the last one, by whomever, left off.
-/

namespace Lifecycle

/-- A source of instants: what its first reading gives, what its second, and so on. -/
structure Clock where
  id : Nat
  reading : Nat → Instant

namespace Clock

/-- A clock that moves on by the same step at each reading. -/
def ticking (id : Nat) (start step : Instant) : Clock :=
  ⟨id, fun taken => start + taken * step⟩

def fixed (id : Nat) (instant : Instant) : Clock := ⟨id, fun _ => instant⟩

end Clock

/-- How many readings have been taken of each clock. -/
structure Readings where
  taken : Table Nat

namespace Readings

def none : Readings := ⟨Table.empty⟩

def count (readings : Readings) (clock : Clock) : Nat :=
  (readings.taken.get? clock.id).getD 0

def next (readings : Readings) (clock : Clock) : Instant × Readings :=
  let count := readings.count clock
  (clock.reading count, ⟨readings.taken.insert clock.id (count + 1)⟩)

/-- A reading counts for its own clock and for no other. -/
theorem count_next (readings : Readings) (clock other : Clock)
    : (readings.next clock).2.count other
      = if other.id = clock.id then readings.count clock + 1 else readings.count other := by
  simp only [next, count, Table.get?_insert]
  split <;> rfl

end Readings

end Lifecycle
