import Lifecycle.Concurrent.Machine

/-! The steps of a call as transitions, each with the condition under which it is taken. A step
function says which step comes next; a transition says of a step that was taken what it found and
what it changed, which is what the invariants of a machine are about.
-/

namespace Lifecycle.Concurrent

/-- The point to which a step leads, unless it ends the call. -/
def Progress.next? {π : Type} : Progress π → Option π
  | .next point => some point
  | .finish _ => none

@[simp] theorem Progress.next?_map {π ρ : Type} (change : π → ρ) (progress : Progress π)
    : (progress.map change).next? = progress.next?.map change := by
  cases progress <;> rfl

/-- The listener that a resolution of the class builds in the given state. -/
def Ground.build (ground : Ground) (shared : Shared) (cls : EntityClass) : Listener :=
  .make shared.cache.nextSerial cls ground.policy.config ground.clock

/-- A new listener is put into the vacant place of its class. -/
def Shared.store (shared : Shared) (listener : Listener) : Shared :=
  shared.mapCache (fun cache =>
    { cache with
      listeners := cache.listeners.insert listener.cls.id listener
      created := cache.created + 1
      nextSerial := cache.nextSerial + 1 })

/-- The mapping was asked about a class. -/
def Shared.consult (shared : Shared) (id : TypeId) : Shared :=
  { shared with consulted := id :: shared.consulted }

/-- A listener was built and thrown away, since the class has one already. -/
def Shared.waste (shared : Shared) : Shared :=
  shared.mapCache (fun cache => { cache with nextSerial := cache.nextSerial + 1 })

/-- The transitions of a call to find a listener while it holds the lock of the class. -/
inductive Stage.Goes (ground : Ground) (tick : Tick) (cls : EntityClass)
    (factory : Option SessionFactory) (lock : LockId) (shared : Shared)
    : Stage → Shared → Progress Stage → Prop
  | relooks {listener} (found : shared.cache.listeners.get? cls.id = some listener)
    : Goes ground tick cls factory lock shared .relookListener shared
        (.next (.release (some listener)))
  | misses (absent : shared.cache.listeners.get? cls.id = none)
    : Goes ground tick cls factory lock shared .relookListener shared (.next .relookTrigger)
  | declines (flag : shared.cache.triggers.get? cls.id = some false)
    : Goes ground tick cls factory lock shared .relookTrigger shared (.next (.release none))
  | proceeds (flag : shared.cache.triggers.get? cls.id ≠ some false)
    : Goes ground tick cls factory lock shared .relookTrigger shared (.next .countCheck)
  | counts
    : Goes ground tick cls factory lock shared .countCheck (shared.mapCache Cache.countCheck)
        (.next .consult)
  | disowns (foreign : ground.policy.owns cls factory = false)
    : Goes ground tick cls factory lock shared .consult shared (.next (.insertTrigger none))
  | maps (owned : ground.policy.owns cls factory = true) (verdict : tick.verdict cls = .mapped)
    : Goes ground tick cls factory lock shared .consult (shared.consult cls.id)
        (.next .insertListener)
  | unmaps (owned : ground.policy.owns cls factory = true)
    (verdict : tick.verdict cls = .unmapped)
    : Goes ground tick cls factory lock shared .consult (shared.consult cls.id)
        (.next (.insertTrigger none))
  | panics (owned : ground.policy.owns cls factory = true)
    (verdict : tick.verdict cls = .panics)
    : Goes ground tick cls factory lock shared .consult (shared.consult cls.id) (.next .unwind)
  | inserts (vacant : shared.cache.listeners.get? cls.id = none)
    : Goes ground tick cls factory lock shared .insertListener
        (shared.store (ground.build shared cls))
        (.next (.insertTrigger (some (ground.build shared cls))))
  | yields {earlier} (occupied : shared.cache.listeners.get? cls.id = some earlier)
    : Goes ground tick cls factory lock shared .insertListener shared.waste
        (.next (.insertTrigger (some earlier)))
  | flags (answer : Option Listener)
    : Goes ground tick cls factory lock shared (.insertTrigger answer)
        (shared.mapCache (·.setTrigger cls.id answer.isSome)) (.next (.release answer))
  | returns (answer : Option Listener)
    : Goes ground tick cls factory lock shared (.release answer)
        (shared.mapCache (·.release lock false)) (.finish (.found answer))
  | unwinds
    : Goes ground tick cls factory lock shared .unwind (shared.mapCache (·.release lock true))
        (.finish .panicked)

/-- The transitions of a call to find a listener. -/
inductive FindPoint.Goes (ground : Ground) (tick : Tick) (cls : EntityClass)
    (factory : Option SessionFactory) (shared : Shared)
    : FindPoint → Shared → Progress FindPoint → Prop
  | hits {listener} (found : shared.cache.listeners.get? cls.id = some listener)
    : Goes ground tick cls factory shared .lookListener shared
        (.next (.countHit (some listener)))
  | misses (absent : shared.cache.listeners.get? cls.id = none)
    : Goes ground tick cls factory shared .lookListener shared (.next .lookTrigger)
  | declines (flag : shared.cache.triggers.get? cls.id = some false)
    : Goes ground tick cls factory shared .lookTrigger shared (.next (.countHit none))
  | proceeds (flag : shared.cache.triggers.get? cls.id ≠ some false)
    : Goes ground tick cls factory shared .lookTrigger shared (.next .ensureLock)
  | counts (answer : Option Listener)
    : Goes ground tick cls factory shared (.countHit answer) (shared.mapCache Cache.countHit)
        (.finish (.found answer))
  | ensures
    : Goes ground tick cls factory shared .ensureLock
        (shared.mapCache (fun cache => (cache.ensureLock cls.id).2))
        (.next (.acquire (shared.cache.ensureLock cls.id).1))
  | acquires {lock latches}
    (acquired
      : shared.cache.acquire? lock tick.thread = some { shared.cache with latches := latches })
    : Goes ground tick cls factory shared (.acquire lock)
        (shared.mapCache (fun cache => { cache with latches }))
        (.next (.inside lock .relookListener))
  | inside {lock stage reached progress}
    (goes : stage.Goes ground tick cls factory lock shared reached progress)
    : Goes ground tick cls factory shared (.inside lock stage) reached
        (progress.map (.inside lock))

/-- The transitions of the eviction of a class. -/
inductive EvictPoint.Goes (tick : Tick) (key : ClassKey) (shared : Shared)
    : EvictPoint → Shared → Progress EvictPoint → Prop
  | finds {lock} (known : shared.cache.locks.get? key.id = some lock)
    : Goes tick key shared .lookLock shared (.next (.acquire lock))
  | misses (absent : shared.cache.locks.get? key.id = none)
    : Goes tick key shared .lookLock shared (.next (.dropListener none))
  | acquires {lock latches}
    (acquired
      : shared.cache.acquire? lock tick.thread = some { shared.cache with latches := latches })
    : Goes tick key shared (.acquire lock) (shared.mapCache (fun cache => { cache with latches }))
        (.next (.dropListener (some lock)))
  | dropsListener (held : Option LockId)
    : Goes tick key shared (.dropListener held) (shared.mapCache (·.dropListener key.id))
        (.next (.dropTrigger held (shared.cache.listeners.get? key.id).isSome))
  | dropsTrigger (lock : LockId) (dropped : Bool)
    : Goes tick key shared (.dropTrigger (some lock) dropped)
        (shared.mapCache (·.dropTrigger key.id))
        (.next (.release lock (dropped || (shared.cache.triggers.get? key.id).isSome)))
  | finishes (dropped : Bool)
    : Goes tick key shared (.dropTrigger none dropped)
        (shared.mapCache (·.dropTrigger key.id))
        (.finish (.evicted (dropped || (shared.cache.triggers.get? key.id).isSome)))
  | returns (lock : LockId) (dropped : Bool)
    : Goes tick key shared (.release lock dropped) (shared.mapCache (·.release lock false))
        (.finish (.evicted dropped))

/-- The transitions of the eviction of all classes. -/
inductive ClearPoint.Goes (shared : Shared) : ClearPoint → Shared → Progress ClearPoint → Prop
  | dropsListener {swept : List TypeId} {id : TypeId} (fresh : id ∉ swept)
    : Goes shared (.listeners swept) (shared.mapCache (·.dropListener id))
        (.next (.listeners (id :: swept)))
  | turns {swept : List TypeId} (passed : ∀ id ∈ shared.cache.listeners.ids, id ∈ swept)
    : Goes shared (.listeners swept) shared (.next (.triggers []))
  | dropsTrigger {swept : List TypeId} {id : TypeId} (fresh : id ∉ swept)
    : Goes shared (.triggers swept) (shared.mapCache (·.dropTrigger id))
        (.next (.triggers (id :: swept)))
  | returns {swept : List TypeId} (passed : ∀ id ∈ shared.cache.triggers.ids, id ∈ swept)
    : Goes shared (.triggers swept) shared (.finish .cleared)

/-- The transitions of a call. -/
inductive Activity.Goes (ground : Ground) (tick : Tick) (shared : Shared)
    : Activity → Shared → Progress Activity → Prop
  | find {cls factory point reached progress}
    (goes : point.Goes ground tick cls factory shared reached progress)
    : Goes ground tick shared (.find cls factory point) reached
        (progress.map (.find cls factory))
  | evict {key point reached progress} (goes : point.Goes tick key shared reached progress)
    : Goes ground tick shared (.evict key point) reached (progress.map (.evict key))
  | clear {point reached progress} (goes : point.Goes shared reached progress)
    : Goes ground tick shared (.clear point) reached (progress.map .clear)

variable {ground : Ground} {tick : Tick} {cls : EntityClass} {factory : Option SessionFactory}
  {shared reached : Shared}

/-- Every step inside a lock is one of the transitions, by the point at which it is taken. -/
theorem Stage.goes_step (lock : LockId) (stage : Stage)
    : stage.Goes ground tick cls factory lock shared
        (stage.step ground tick cls factory lock shared).1
        (stage.step ground tick cls factory lock shared).2 := by
  cases stage with
  | relookListener =>
      cases found : shared.cache.listeners.get? cls.id with
      | none => simpa only [step, found] using .misses found
      | some listener => simpa only [step, found] using .relooks found
  | relookTrigger =>
      by_cases flag : shared.cache.triggers.get? cls.id = some false
      · simpa only [step, if_pos flag] using .declines flag
      · simpa only [step, if_neg flag] using .proceeds flag
  | countCheck => exact .counts
  | consult =>
      cases owned : ground.policy.owns cls factory with
      | false => simpa [step, consulting, owned] using .disowns owned
      | true =>
          cases verdict : tick.verdict cls with
          | mapped => simpa [step, consulting, owned, verdict] using .maps owned verdict
          | unmapped => simpa [step, consulting, owned, verdict] using .unmaps owned verdict
          | panics => simpa [step, consulting, owned, verdict] using .panics owned verdict
  | insertListener =>
      cases occupied : shared.cache.listeners.get? cls.id with
      | none =>
          simpa [step, Cache.makeListener, Cache.addListener, Listener.make, occupied]
            using .inserts occupied
      | some earlier =>
          simpa [step, Cache.makeListener, Cache.addListener, Listener.make, occupied]
            using .yields occupied
  | insertTrigger answer => exact .flags answer
  | release answer => exact .returns answer
  | unwind => exact .unwinds

/-- Every step of a call to find a listener is one of the transitions. -/
theorem FindPoint.goes_of_step? {point : FindPoint} {progress : Progress FindPoint}
    (taken : point.step? ground tick cls factory shared = some (reached, progress))
    : point.Goes ground tick cls factory shared reached progress := by
  cases point with
  | lookListener =>
      cases found : shared.cache.listeners.get? cls.id with
      | none =>
          simp only [step?, found] at taken
          cases taken
          exact .misses found
      | some listener =>
          simp only [step?, found] at taken
          cases taken
          exact .hits found
  | lookTrigger =>
      by_cases flag : shared.cache.triggers.get? cls.id = some false
      · simp only [step?, if_pos flag] at taken
        cases taken
        exact .declines flag
      · simp only [step?, if_neg flag] at taken
        cases taken
        exact .proceeds flag
  | countHit answer =>
      cases taken
      exact .counts answer
  | ensureLock =>
      cases taken
      exact .ensures
  | acquire lock =>
      obtain ⟨cache, acquired, same⟩ := Option.map_eq_some_iff.mp taken
      obtain ⟨latches, rfl⟩ : ∃ latches, cache = { shared.cache with latches } :=
        ⟨_, (Cache.acquire?_eq_some _ acquired).2.1⟩
      cases same
      exact .acquires acquired
  | inside lock stage =>
      cases taken
      exact .inside (stage.goes_step lock)

/-- Every step of the eviction of a class is one of the transitions. -/
theorem EvictPoint.goes_of_step? {key : ClassKey} {point : EvictPoint}
    {progress : Progress EvictPoint}
    (taken : point.step? tick key shared = some (reached, progress))
    : point.Goes tick key shared reached progress := by
  cases point with
  | lookLock =>
      cases known : shared.cache.locks.get? key.id with
      | none =>
          simp only [step?, known] at taken
          cases taken
          exact .misses known
      | some lock =>
          simp only [step?, known] at taken
          cases taken
          exact .finds known
  | acquire lock =>
      obtain ⟨cache, acquired, same⟩ := Option.map_eq_some_iff.mp taken
      obtain ⟨latches, rfl⟩ : ∃ latches, cache = { shared.cache with latches } :=
        ⟨_, (Cache.acquire?_eq_some _ acquired).2.1⟩
      cases same
      exact .acquires acquired
  | dropListener held =>
      cases taken
      exact .dropsListener held
  | dropTrigger held dropped =>
      cases held with
      | none =>
          cases taken
          exact .finishes dropped
      | some lock =>
          cases taken
          exact .dropsTrigger lock dropped
  | release lock dropped =>
      cases taken
      exact .returns lock dropped

/-- Every step of the eviction of all classes is one of the transitions. -/
theorem ClearPoint.goes_of_step? {point : ClearPoint} {progress : Progress ClearPoint}
    (taken : point.step? tick shared = some (reached, progress))
    : point.Goes shared reached progress := by
  cases point with
  | listeners swept =>
      cases sweep : tick.sweep with
      | none =>
          simp only [step?, sweep, List.all_eq_true, List.contains_iff_mem] at taken
          split at taken
          · rename_i passed
            cases taken
            exact .turns passed
          · cases taken
      | some id =>
          simp only [step?, sweep, List.contains_iff_mem] at taken
          split at taken
          · cases taken
          · rename_i fresh
            cases taken
            exact .dropsListener fresh
  | triggers swept =>
      cases sweep : tick.sweep with
      | none =>
          simp only [step?, sweep, List.all_eq_true, List.contains_iff_mem] at taken
          split at taken
          · rename_i passed
            cases taken
            exact .returns passed
          · cases taken
      | some id =>
          simp only [step?, sweep, List.contains_iff_mem] at taken
          split at taken
          · cases taken
          · rename_i fresh
            cases taken
            exact .dropsTrigger fresh

/-- Every step of a call is one of the transitions. -/
theorem Activity.goes_of_step? {activity : Activity} {progress : Progress Activity}
    (taken : activity.step? ground tick shared = some (reached, progress))
    : activity.Goes ground tick shared reached progress := by
  cases activity with
  | find cls factory point =>
      obtain ⟨⟨_, _⟩, stepped, same⟩ := Option.map_eq_some_iff.mp taken
      cases same
      exact .find (FindPoint.goes_of_step? stepped)
  | evict key point =>
      obtain ⟨⟨_, _⟩, stepped, same⟩ := Option.map_eq_some_iff.mp taken
      cases same
      exact .evict (EvictPoint.goes_of_step? stepped)
  | clear point =>
      obtain ⟨⟨_, _⟩, stepped, same⟩ := Option.map_eq_some_iff.mp taken
      cases same
      exact .clear (ClearPoint.goes_of_step? stepped)

/-- No transition changes what was asked for. -/
theorem Activity.Goes.request_eq {activity next : Activity} {progress : Progress Activity}
    (goes : activity.Goes ground tick shared reached progress)
    (leads : progress.next? = some next)
    : next.request = activity.request := by
  cases goes with
  | find | evict | clear =>
      rw [Progress.next?_map] at leads
      obtain ⟨_, _, rfl⟩ := Option.map_eq_some_iff.mp leads
      rfl

end Lifecycle.Concurrent
