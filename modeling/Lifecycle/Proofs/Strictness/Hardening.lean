import Lifecycle.Proofs.Nesting.Coherence

/-! The states of an interceptor that is as strict as a configuration says, made from those of a
lenient one. Only what listeners make of validation errors differs; what a cache says of a class,
its locks and its counters do not.
-/

namespace Lifecycle

-----------------------------------------------------------------------------------------
-- Tables of changed values
-----------------------------------------------------------------------------------------

namespace Table

variable {α β : Type} (change : α → β)

/-- The table with each value changed. -/
def map (table : Table α) : Table β where
  entries := table.entries.map (fun entry => (entry.1, change entry.2))
  distinct := by
    rw [List.map_map]
    exact table.distinct

theorem ext {table other : Table α} (same : table.entries = other.entries) : table = other := by
  cases table
  cases other
  cases same
  rfl

theorem others_map (id : Nat) (entries : List (Nat × α))
    : others id (entries.map (fun entry => (entry.1, change entry.2)))
      = (others id entries).map (fun entry => (entry.1, change entry.2)) :=
  List.filter_map

theorem get?_map (table : Table α) (id : Nat)
    : (table.map change).get? id = (table.get? id).map change := by
  simp only [get?, map, List.find?_map, Option.map_map]
  rfl

theorem map_erase (table : Table α) (id : Nat)
    : (table.erase id).map change = (table.map change).erase id :=
  ext (others_map change id table.entries).symm

theorem map_insert (table : Table α) (id : Nat) (value : α)
    : (table.insert id value).map change = (table.map change).insert id (change value) :=
  ext (congrArg (List.cons _) (others_map change id table.entries).symm)

theorem size_map (table : Table α) : (table.map change).size = table.size := List.length_map _

end Table

-----------------------------------------------------------------------------------------
-- Hardened caches
-----------------------------------------------------------------------------------------

variable {ε μ : Type}

/-- The listener as a configuration would have it. -/
def Listener.harden (config : Config) (listener : Listener) : Listener :=
  { listener with failOnError := config.covers listener.cls }

namespace Cache

variable (config : Config) (cache : Cache)

def harden : Cache := { cache with listeners := cache.listeners.map (Listener.harden config) }

theorem decided?_harden (id : TypeId)
    : (cache.harden config).decided? id
      = (cache.decided? id).map (Option.map (Listener.harden config)) := by
  unfold decided?
  simp only [harden, Table.get?_map]
  cases cache.listeners.get? id with
  | some listener => rfl
  | none =>
      by_cases silent : cache.triggers.get? id = some false
      · simp [silent]
      · simp [silent]

theorem mentions_harden (id : TypeId) : (cache.harden config).mentions id = cache.mentions id := by
  simp only [mentions, harden, Table.get?_map, Option.isSome_map]

theorem enter?_harden (type : TypeId)
    : (cache.harden config).enter? type
      = (cache.enter? type).map (Prod.map id (harden config)) := by
  have ensured
      : (cache.harden config).ensureLock type
        = ((cache.ensureLock type).1, (cache.ensureLock type).2.harden config) := by
    unfold ensureLock
    simp only [harden]
    split <;> rfl
  have acquired (cache : Cache) (lock : LockId)
      : (cache.harden config).acquire? lock 0
        = (cache.acquire? lock 0).map (harden config) := by
    unfold acquire?
    simp only [harden]
    split <;> rfl
  rw [enter?, enter?, ensured]
  simp only [acquired, Option.map_map]
  rfl

theorem forget_harden (id : TypeId)
    : (cache.forget id).harden config = (cache.harden config).forget id := by
  simp only [forget, dropListener, dropTrigger, harden, Table.map_erase]

/-- A class is given the same listener, but for its strictness. -/
theorem enrol_harden (cls : EntityClass) (clock : Clock)
    : (cache.harden config).enrol cls config clock
      = ((cache.enrol cls default clock).1.harden config,
          (cache.enrol cls default clock).2.harden config) := by
  cases found : cache.listeners.get? cls.id with
  | none =>
      have vacant : (cache.harden config).listeners.get? cls.id = none := by
        rw [harden, Table.get?_map, found, Option.map_none]
      rw [enrol_of_vacant _ _ _ vacant, enrol_of_vacant _ _ _ found]
      simp only [harden, Table.map_insert]
      rfl
  | some earlier =>
      have occupied
          : (cache.harden config).listeners.get? cls.id = some (earlier.harden config) := by
        rw [harden, Table.get?_map, found, Option.map_some]
      rw [enrol_of_occupied _ _ _ occupied, enrol_of_occupied _ _ _ found]
      rfl

theorem stats_harden : (cache.harden config).stats = cache.stats := by
  simp only [stats, harden, Table.size_map]

end Cache

/-- The state with listeners as a configuration would have them, and with the memory as it is then.
-/
def State.harden (config : Config) (veil : μ → μ) (state : State μ) : State μ :=
  { state with cache := state.cache.harden config, memory := veil state.memory }

end Lifecycle
