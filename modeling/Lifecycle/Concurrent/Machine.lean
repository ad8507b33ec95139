import Lifecycle.Concurrent.Request

/-! Threads that share the cache of one interceptor. A step belongs to one thread and takes effect
at once; in what order the threads take their steps is up to a schedule. Nothing else decides how
calls interleave, so what holds for every schedule holds for every interleaving.
-/

namespace Lifecycle.Concurrent

/-- What the threads share: the cache, and the classes about which the mapping was asked, the last
one first.
-/
structure Shared where
  cache : Cache
  consulted : List TypeId

namespace Shared

def empty : Shared := ⟨.empty, []⟩

def mapCache (shared : Shared) (change : Cache → Cache) : Shared :=
  { shared with cache := change shared.cache }

end Shared

/-- What all calls depend on and none changes: the policy of the interceptor, and the clock that it
gives to new listeners.
-/
structure Ground where
  policy : Policy
  clock : Clock

/-- What a step depends on besides: whose step it is, what the mapping says if the step asks it,
and which class a step of `clear` goes past; with none it leaves the table it is in.
-/
structure Tick where
  thread : ThreadId
  verdict : EntityClass → Verdict
  sweep : Option TypeId

namespace Stage

/-- Asks the mapping about a class, if the event that brings the question belongs to the datastore.
-/
def consulting (ground : Ground) (tick : Tick) (cls : EntityClass)
    (factory : Option SessionFactory) (shared : Shared) : Shared × Progress Stage :=
  if ground.policy.owns cls factory then
    let shared := { shared with consulted := cls.id :: shared.consulted }
    match tick.verdict cls with
    | .mapped => (shared, .next .insertListener)
    | .unmapped => (shared, .next (.insertTrigger none))
    | .panics => (shared, .next .unwind)
  else (shared, .next (.insertTrigger none))

/-- One step of a call to find a listener while it holds the lock of the class. -/
def step (ground : Ground) (tick : Tick) (cls : EntityClass) (factory : Option SessionFactory)
    (lock : LockId) (shared : Shared) : Stage → Shared × Progress Stage
  | .relookListener =>
      match shared.cache.listeners.get? cls.id with
      | some listener => (shared, .next (.release (some listener)))
      | none => (shared, .next .relookTrigger)
  | .relookTrigger =>
      if shared.cache.triggers.get? cls.id = some false then (shared, .next (.release none))
      else (shared, .next .countCheck)
  | .countCheck => (shared.mapCache Cache.countCheck, .next .consult)
  | .consult => consulting ground tick cls factory shared
  | .insertListener =>
      let (made, cache) := shared.cache.makeListener cls ground.policy.config ground.clock
      let (kept, cache) := cache.addListener made
      ({ shared with cache }, .next (.insertTrigger (some kept)))
  | .insertTrigger answer =>
      (shared.mapCache (·.setTrigger cls.id answer.isSome), .next (.release answer))
  | .release answer => (shared.mapCache (·.release lock false), .finish (.found answer))
  | .unwind => (shared.mapCache (·.release lock true), .finish .panicked)

end Stage

/-- One step of a call to find a listener; none while the lock it waits for is held. -/
def FindPoint.step? (ground : Ground) (tick : Tick) (cls : EntityClass)
    (factory : Option SessionFactory) (shared : Shared)
    : FindPoint → Option (Shared × Progress FindPoint)
  | .lookListener =>
      match shared.cache.listeners.get? cls.id with
      | some listener => some (shared, .next (.countHit (some listener)))
      | none => some (shared, .next .lookTrigger)
  | .lookTrigger =>
      if shared.cache.triggers.get? cls.id = some false then
        some (shared, .next (.countHit none))
      else some (shared, .next .ensureLock)
  | .countHit answer => some (shared.mapCache Cache.countHit, .finish (.found answer))
  | .ensureLock =>
      let (lock, cache) := shared.cache.ensureLock cls.id
      some ({ shared with cache }, .next (.acquire lock))
  | .acquire lock =>
      (shared.cache.acquire? lock tick.thread).map (fun cache =>
        ({ shared with cache }, .next (.inside lock .relookListener)))
  | .inside lock stage =>
      let (shared, progress) := stage.step ground tick cls factory lock shared
      some (shared, progress.map (.inside lock))

/-- One step of the eviction of a class; none while the lock it waits for is held. -/
def EvictPoint.step? (tick : Tick) (key : ClassKey) (shared : Shared)
    : EvictPoint → Option (Shared × Progress EvictPoint)
  | .lookLock =>
      match shared.cache.locks.get? key.id with
      | some lock => some (shared, .next (.acquire lock))
      | none => some (shared, .next (.dropListener none))
  | .acquire lock =>
      (shared.cache.acquire? lock tick.thread).map (fun cache =>
        ({ shared with cache }, .next (.dropListener (some lock))))
  | .dropListener held =>
      some (shared.mapCache (·.dropListener key.id),
        .next (.dropTrigger held (shared.cache.listeners.get? key.id).isSome))
  | .dropTrigger held dropped =>
      let dropped := dropped || (shared.cache.triggers.get? key.id).isSome
      some (shared.mapCache (·.dropTrigger key.id),
        match held with
        | some lock => .next (.release lock dropped)
        | none => .finish (.evicted dropped))
  | .release lock dropped =>
      some (shared.mapCache (·.release lock false), .finish (.evicted dropped))

/-- One step of the eviction of all classes. No class is gone past twice, and a table is left only
when every class in it has been gone past; a class that enters the table behind that stays.
-/
def ClearPoint.step? (tick : Tick) (shared : Shared)
    : ClearPoint → Option (Shared × Progress ClearPoint)
  | .listeners swept =>
      match tick.sweep with
      | some id =>
          if swept.contains id then none
          else some (shared.mapCache (·.dropListener id), .next (.listeners (id :: swept)))
      | none =>
          if shared.cache.listeners.ids.all swept.contains then
            some (shared, .next (.triggers []))
          else none
  | .triggers swept =>
      match tick.sweep with
      | some id =>
          if swept.contains id then none
          else some (shared.mapCache (·.dropTrigger id), .next (.triggers (id :: swept)))
      | none =>
          if shared.cache.triggers.ids.all swept.contains then some (shared, .finish .cleared)
          else none

def Activity.step? (ground : Ground) (tick : Tick) (shared : Shared)
    : Activity → Option (Shared × Progress Activity)
  | .find cls factory point =>
      (point.step? ground tick cls factory shared).map (fun (shared, progress) =>
        (shared, progress.map (.find cls factory)))
  | .evict key point =>
      (point.step? tick key shared).map (fun (shared, progress) =>
        (shared, progress.map (.evict key)))
  | .clear point =>
      (point.step? tick shared).map (fun (shared, progress) =>
        (shared, progress.map .clear))

/-- A thread: the call it is in, the calls it has yet to make, and those it has made with what they
gave back, in order.
-/
structure Thread where
  current : Option Activity
  queue : List Request
  replies : List (Request × Reply)

namespace Thread

/-- A thread that has not begun. -/
def making (requests : List Request) : Thread := ⟨none, requests, []⟩

/-- The thread has no call to finish and none to make. -/
def isDone (thread : Thread) : Bool := thread.current.isNone && thread.queue.isEmpty

def proceed (thread : Thread) (activity : Activity) : Progress Activity → Thread
  | .next activity => { thread with current := some activity }
  | .finish reply =>
      { thread with
        current := none
        replies := thread.replies ++ [(activity.request, reply)] }

/-- One step of a thread: of the call it is in, or the beginning of its next call. -/
def step? (ground : Ground) (tick : Tick) (shared : Shared) (thread : Thread)
    : Option (Shared × Thread) :=
  match thread.current, thread.queue with
  | some activity, _ =>
      (activity.step? ground tick shared).map (fun (shared, progress) =>
        (shared, thread.proceed activity progress))
  | none, request :: queue =>
      some (shared, { thread with current := some request.begin, queue })
  | none, [] => none

end Thread

/-- Threads over what they share. -/
structure Machine where
  shared : Shared
  threads : List Thread

namespace Machine

/-- A machine whose threads have not begun, over an empty cache. -/
def initial (requests : List (List Request)) : Machine :=
  ⟨.empty, requests.map Thread.making⟩

/-- The step of a thread, if there is one that it can take. -/
def step? (ground : Ground) (machine : Machine) (tick : Tick) : Option Machine := do
  let thread ← machine.threads[tick.thread]?
  let (shared, thread) ← thread.step? ground tick machine.shared
  pure ⟨shared, machine.threads.set tick.thread thread⟩

/-- Runs a schedule. A tick of a thread that cannot take its step changes nothing. -/
def run (ground : Ground) (machine : Machine) (schedule : List Tick) : Machine :=
  schedule.foldl (fun machine tick => (machine.step? ground tick).getD machine) machine

/-- Every call has come back. -/
def isIdle (machine : Machine) : Bool := machine.threads.all Thread.isDone

/-- No call is under way, though some may not have begun. -/
def isQuiet (machine : Machine) : Bool :=
  machine.threads.all (fun thread => thread.current.isNone)

def replies (machine : Machine) : List (Request × Reply) :=
  machine.threads.flatMap Thread.replies

end Machine

end Lifecycle.Concurrent
