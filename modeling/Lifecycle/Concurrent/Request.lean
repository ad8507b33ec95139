import Lifecycle.Cache
import Lifecycle.Policy

/-! What many threads ask of one interceptor at the same time, and how far each has come. A call is
a sequence of steps, each of which takes effect at once; a point says what a call does next.
-/

namespace Lifecycle.Concurrent

/-- A call that a thread makes: the listener of a class for an event of a factory, the eviction of
a class, or the eviction of all.
-/
inductive Request where
  | find (cls : EntityClass) (factory : Option SessionFactory)
  | evict (key : ClassKey)
  | clear
  deriving Repr

/-- What a call gives back. A call to find a listener ends without an answer if the mapping panics.
-/
inductive Reply where
  | found (listener : Option Listener)
  | panicked
  | evicted (dropped : Bool)
  | cleared

/-- What the mapping says when it is asked about a class. -/
inductive Verdict where
  | mapped
  | unmapped
  | panics
  deriving DecidableEq, Repr

/-- What a call to find a listener does next while it holds the lock of its class, which `release`
and `unwind` give back.
-/
inductive Stage where
  | relookListener
  | relookTrigger
  | countCheck
  | consult
  | insertListener
  | insertTrigger (answer : Option Listener)
  | release (answer : Option Listener)
  | unwind

/-- What a call to find a listener does next. -/
inductive FindPoint where
  | lookListener
  | lookTrigger
  | countHit (answer : Option Listener)
  | ensureLock
  | acquire (lock : LockId)
  | inside (lock : LockId) (stage : Stage)

/-- What the eviction of a class does next. It holds the lock if there was one when it looked. -/
inductive EvictPoint where
  | lookLock
  | acquire (lock : LockId)
  | dropListener (held : Option LockId)
  | dropTrigger (held : Option LockId) (dropped : Bool)
  | release (lock : LockId) (dropped : Bool)
  deriving DecidableEq, Repr

/-- What the eviction of all classes does next: it goes through the listeners, then through the
triggers, class by class. The list holds the classes that it has gone past.
-/
inductive ClearPoint where
  | listeners (swept : List TypeId)
  | triggers (swept : List TypeId)
  deriving DecidableEq, Repr

/-- A call that has begun and not come back. -/
inductive Activity where
  | find (cls : EntityClass) (factory : Option SessionFactory) (point : FindPoint)
  | evict (key : ClassKey) (point : EvictPoint)
  | clear (point : ClearPoint)

def Request.begin : Request → Activity
  | .find cls factory => .find cls factory .lookListener
  | .evict key => .evict key .lookLock
  | .clear => .clear (.listeners [])

def Activity.request : Activity → Request
  | .find cls factory _ => .find cls factory
  | .evict key _ => .evict key
  | .clear _ => .clear

/-- Where a step leads: on to the next point, or back to the caller. -/
inductive Progress (π : Type) where
  | next (point : π)
  | finish (reply : Reply)

def Progress.map {π ρ : Type} (change : π → ρ) : Progress π → Progress ρ
  | .next point => .next (change point)
  | .finish reply => .finish reply

end Lifecycle.Concurrent
