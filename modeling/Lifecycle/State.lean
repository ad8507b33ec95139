import Lifecycle.Cache

/-! Everything that an interceptor and the code it calls keep from one call to the next. -/

namespace Lifecycle

/-- The cache, the clock that new listeners get, the readings taken so far of all clocks, and
the memory of the code that the interceptor calls.
-/
structure State (μ : Type) where
  cache : Cache
  clock : Clock
  readings : Readings
  memory : μ

namespace State

variable {μ : Type}

def initial (clock : Clock) (memory : μ) : State μ := ⟨.empty, clock, .none, memory⟩

def mapCache (state : State μ) (change : Cache → Cache) : State μ :=
  { state with cache := change state.cache }

end State

end Lifecycle
