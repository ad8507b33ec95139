import Lifecycle.Interceptor

/-! Resolving the listener of a class. The first event of a class decides whether its events reach
a listener; the decision stays until it is evicted. One thread of control is at work here, so a
lock that is taken is held by a caller further up, and waiting for it never ends.
-/

namespace Lifecycle

namespace Cache

/-- What is remembered of a class: nothing, that it has no listener, or its listener. A trigger
without a listener says nothing.
-/
def decided? (cache : Cache) (id : TypeId) : Option (Option Listener) :=
  match cache.listeners.get? id with
  | some listener => some (some listener)
  | none => if cache.triggers.get? id = some false then some none else none

def mentions (cache : Cache) (id : TypeId) : Bool :=
  (cache.listeners.get? id).isSome || (cache.triggers.get? id).isSome

def forget (cache : Cache) (id : TypeId) : Cache := (cache.dropListener id).dropTrigger id

/-- Only the class that is forgotten loses its listener. -/
theorem listeners_forget (cache : Cache) (id other : TypeId)
    : (cache.forget id).listeners.get? other
      = if other = id then none else cache.listeners.get? other :=
  Table.get?_erase ..

theorem triggers_forget (cache : Cache) (id other : TypeId)
    : (cache.forget id).triggers.get? other
      = if other = id then none else cache.triggers.get? other :=
  Table.get?_erase ..

/-- Remembers that events of a class reach no listener. -/
def decline (cache : Cache) (cls : EntityClass) : Cache := cache.setTrigger cls.id false

/-- Makes and remembers the listener of a class, unless there is one; gives the one there is. -/
def enrol (cache : Cache) (cls : EntityClass) (config : Config) (clock : Clock)
    : Listener × Cache :=
  let (made, cache) := cache.makeListener cls config clock
  let (kept, cache) := cache.addListener made
  (kept, cache.setTrigger cls.id true)

/-- A class without a listener gets the one that is made for it. -/
theorem enrol_of_vacant (cache : Cache) {cls : EntityClass} (config : Config) (clock : Clock)
    (vacant : cache.listeners.get? cls.id = none)
    : cache.enrol cls config clock
      = (.make cache.nextSerial cls config clock,
          { cache with
            listeners := cache.listeners.insert cls.id (.make cache.nextSerial cls config clock)
            triggers := cache.triggers.insert cls.id true
            created := cache.created + 1
            nextSerial := cache.nextSerial + 1 }) := by
  simp [enrol, makeListener, addListener, Listener.make, vacant, setTrigger]

/-- A class that has a listener keeps it. -/
theorem enrol_of_occupied (cache : Cache) {cls : EntityClass} (config : Config) (clock : Clock)
    {earlier : Listener} (occupied : cache.listeners.get? cls.id = some earlier)
    : cache.enrol cls config clock
      = (earlier,
          { cache with
            triggers := cache.triggers.insert cls.id true
            nextSerial := cache.nextSerial + 1 }) := by
  simp [enrol, makeListener, addListener, Listener.make, occupied, setTrigger]

/-- Takes the lock of a class, made if there is none, for the one thread of control. -/
def enter? (cache : Cache) (id : TypeId) : Option (LockId × Cache) :=
  let (lock, cache) := cache.ensureLock id
  (cache.acquire? lock 0).map (fun cache => (lock, cache))

def isHeld (cache : Cache) (id : TypeId) : Bool :=
  ((cache.locks.get? id).bind cache.owner?).isSome

end Cache

namespace Interceptor

variable {ε μ α : Type}

/-- A call that is made while a lock is held. However it ends the lock is given back, marked after
a panic; a call that never comes back keeps it.
-/
def holding (lock : LockId) (call : Call (State μ) α) : Call (State μ) α :=
  .ofOutcome (fun state =>
    match call.outcome state with
    | (.error .hung, state) => (.error .hung, state)
    | (.error .panicked, state) =>
        (.error .panicked, state.mapCache (·.release lock true))
    | (result, state) => (result, state.mapCache (·.release lock false)))

/-- Whether events of a class are to reach a listener. The mapping is asked about the class only
if the event that brings the question belongs to the datastore.
-/
def isEligible (interceptor : Interceptor ε μ) (services : Services ε μ) (cls : EntityClass)
    (factory : Option SessionFactory) : Call (State μ) Bool :=
  if interceptor.owns cls factory then
    Prod.fst <$> Call.lend ((interceptor.mapping cls).run services) ()
  else pure false

/-- Remembers the decision on a class and gives its listener. -/
def settle (interceptor : Interceptor ε μ) (cls : EntityClass) (eligible : Bool)
    : Call (State μ) (Option Listener) := do
  let state ← get
  if eligible then
    let (listener, cache) := state.cache.enrol cls interceptor.config state.clock
    set { state with cache }
    pure (some listener)
  else
    set { state with cache := state.cache.decline cls }
    pure none

/-- Decides on a class while its lock is held, unless it was decided on while the lock was waited
for. If the mapping panics nothing is remembered.
-/
def resolve (interceptor : Interceptor ε μ) (services : Services ε μ) (cls : EntityClass)
    (factory : Option SessionFactory) : Call (State μ) (Option Listener) := do
  let state ← get
  match state.cache.decided? cls.id with
  | some decision => pure decision
  | none =>
      modify (·.mapCache Cache.countCheck)
      let eligible ← interceptor.isEligible services cls factory
      interceptor.settle cls eligible

/-- The listener of a class, if its events reach one: as remembered, or resolved now for an event
of the given factory. `services` answers the calls of the mapping.
-/
def findWith (interceptor : Interceptor ε μ) (services : Services ε μ) (cls : EntityClass)
    (factory : Option SessionFactory) : Call (State μ) (Option Listener) := do
  let state ← get
  match state.cache.decided? cls.id with
  | some decision =>
      set (state.mapCache Cache.countHit)
      pure decision
  | none =>
      match state.cache.enter? cls.id with
      | none => throw .hung
      | some (lock, cache) =>
          set { state with cache }
          holding lock (interceptor.resolve services cls factory)

/-- The listener for an entity; an event without an entity has none, and nothing is counted. -/
def findForWith [Entity ε μ] (interceptor : Interceptor ε μ) (services : Services ε μ)
    (entity : Option ε) (factory : Option SessionFactory)
    : Call (State μ) (Option Listener) :=
  match entity with
  | none => pure none
  | some entity => interceptor.findWith services (Entity.cls entity) factory

/-- Forgets what is remembered of a class, and answers whether that was anything. A resolution of
the class that is under way is waited for; the lock of the class stays.
-/
def evict (key : ClassKey) : Call (State μ) Bool := do
  let state ← get
  if state.cache.isHeld key.id then throw .hung
  else
    set (state.mapCache (·.forget key.id))
    pure (state.cache.mentions key.id)

def clear : Call (State μ) Unit := modify (·.mapCache Cache.clear)

/-- Replaces the clock. Listeners keep the clock they were made with, so they are forgotten. -/
def setClock (clock : Clock) : Call (State μ) Unit := do
  modify (fun state => { state with clock })
  clear

end Interceptor

end Lifecycle
