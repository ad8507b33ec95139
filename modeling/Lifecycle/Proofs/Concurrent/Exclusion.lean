import Lifecycle.Proofs.Concurrent.Moves

/-! The locks of a machine, under every schedule. A class keeps the lock that was made for it, a
call that knows a lock knows the lock of its class, and a lock is held by exactly the calls that
are past taking it and before giving it back. So two calls never work inside one class at a time.
-/

namespace Lifecycle.Concurrent

-----------------------------------------------------------------------------------------
-- The lock that a call knows of and the lock that it holds
-----------------------------------------------------------------------------------------

/-- The lock that a call to find a listener has been told to take. -/
def FindPoint.lock? : FindPoint → Option LockId
  | .acquire lock => some lock
  | .inside lock _ => some lock
  | _ => none

def FindPoint.held? : FindPoint → Option LockId
  | .inside lock _ => some lock
  | _ => none

/-- The lock that the eviction of a class has found. -/
def EvictPoint.lock? : EvictPoint → Option LockId
  | .lookLock => none
  | .acquire lock => some lock
  | .dropListener held => held
  | .dropTrigger held _ => held
  | .release lock _ => some lock

def EvictPoint.held? : EvictPoint → Option LockId
  | .lookLock => none
  | .acquire _ => none
  | .dropListener held => held
  | .dropTrigger held _ => held
  | .release lock _ => some lock

def Activity.held? : Activity → Option LockId
  | .find _ _ point => point.held?
  | .evict _ point => point.held?
  | .clear _ => none

/-- The call is at work on the class: it is a call to find the listener of the class that has taken
the lock of the class and has yet to give it back.
-/
def Activity.WorksOn (id : TypeId) : Activity → Prop
  | .find cls _ (.inside _ _) => cls.id = id
  | _ => False

theorem Activity.WorksOn.eq_inside {activity : Activity} {id : TypeId} (works : activity.WorksOn id)
    : ∃ cls factory lock stage,
        activity = .find cls factory (.inside lock stage) ∧ cls.id = id := by
  match activity, works with
  | .find cls factory (.inside lock stage), same => exact ⟨cls, factory, lock, stage, rfl, same⟩

/-- The lock that a call knows of is the lock of its class. -/
def Activity.KnowsLock (shared : Shared) : Activity → Prop
  | .find cls _ point =>
      ∀ lock, point.lock? = some lock → shared.cache.locks.get? cls.id = some lock
  | .evict key point =>
      ∀ lock, point.lock? = some lock → shared.cache.locks.get? key.id = some lock
  | .clear _ => True

/-- What a call knows of a lock it goes on knowing while classes keep their locks. -/
theorem Activity.KnowsLock.mono {activity : Activity} {shared reached : Shared}
    (knows : activity.KnowsLock shared)
    (keeps
      : ∀ {id lock},
          shared.cache.locks.get? id = some lock → reached.cache.locks.get? id = some lock)
    : activity.KnowsLock reached := by
  cases activity with
  | find cls factory point => exact fun lock told => keeps (knows lock told)
  | evict key point => exact fun lock told => keeps (knows lock told)
  | clear point => trivial

/-- A call begins without any lock. -/
@[simp] theorem Request.held?_begin (request : Request) : request.begin.held? = none := by
  cases request <;> rfl

theorem Request.knowsLock_begin (request : Request) (shared : Shared)
    : request.begin.KnowsLock shared := by
  cases request with
  | find cls factory => exact fun _ known => nomatch known
  | evict key => exact fun _ known => nomatch known
  | clear => trivial

-----------------------------------------------------------------------------------------
-- What one step does to the locks
-----------------------------------------------------------------------------------------

variable {ground : Ground} {tick : Tick} {shared reached : Shared}

/-- Inside a lock a call neither makes locks nor takes any away. -/
theorem Stage.Goes.locks_eq {cls : EntityClass} {factory : Option SessionFactory} {lock : LockId}
    {stage : Stage} {progress : Progress Stage}
    (goes : stage.Goes ground tick cls factory lock shared reached progress)
    : reached.cache.locks = shared.cache.locks := by
  cases goes <;> rfl

/-- Inside a lock a call changes who holds which lock only by the step that ends it, which gives
its own lock back.
-/
theorem Stage.Goes.owner?_eq {cls : EntityClass} {factory : Option SessionFactory} {lock : LockId}
    {stage : Stage} {progress : Progress Stage}
    (goes : stage.Goes ground tick cls factory lock shared reached progress) (other : LockId)
    : reached.cache.owner? other
      = if progress.next? = none ∧ other = lock then none else shared.cache.owner? other := by
  cases goes with
  | returns | unwinds =>
      simp only [Progress.next?, true_and, Shared.mapCache, Cache.owner?_release]
  | relooks | misses | declines | proceeds | counts | disowns | maps | unmaps | panics | inserts
  | yields | flags => exact (if_neg (fun both => nomatch both.1)).symm

/-- A class that has a lock keeps it, whatever step is taken. -/
theorem Activity.Goes.get?_locks {activity : Activity} {progress : Progress Activity}
    (goes : activity.Goes ground tick shared reached progress) {id : TypeId} {lock : LockId}
    (known : shared.cache.locks.get? id = some lock)
    : reached.cache.locks.get? id = some lock := by
  cases goes with
  | find goes =>
      cases goes with
      | hits | misses | declines | proceeds | counts | acquires => exact known
      | ensures =>
          rw [Shared.mapCache, Cache.get?_locks_ensureLock]
          split
          · rename_i same
            rw [← same, Cache.ensureLock_of_known _ known]
          · exact known
      | inside goes => exact goes.locks_eq ▸ known
  | evict goes => cases goes <;> exact known
  | clear goes => cases goes <;> exact known

/-- A step moves locks only between nobody and the thread that takes it: the thread comes to hold
a lock that was free, and ceases to hold the lock that its call held.
-/
theorem Activity.Goes.owner?_eq {activity : Activity} {progress : Progress Activity}
    (goes : activity.Goes ground tick shared reached progress)
    (owns : ∀ lock, activity.held? = some lock → shared.cache.owner? lock = some tick.thread)
    (lock : LockId)
    : reached.cache.owner? lock
        = (if progress.next?.bind held? = some lock then some tick.thread
          else if activity.held? = some lock then none else shared.cache.owner? lock)
      ∧ (progress.next?.bind held? = some lock
        → activity.held? = some lock ∨ shared.cache.owner? lock = none) := by
  have taking {awaited cache} (acquired : shared.cache.acquire? awaited tick.thread = some cache)
      : cache.owner? lock
          = (if some awaited = some lock then some tick.thread else shared.cache.owner? lock)
        ∧ (some awaited = some lock → shared.cache.owner? lock = none) := by
    obtain ⟨free, -, owner⟩ := Cache.acquire?_eq_some _ acquired
    simp only [owner, Option.some.injEq, eq_comm (a := lock)]
    exact ⟨trivial, fun same => same ▸ free⟩
  cases goes with
  | @find cls factory point _ progress goes =>
      cases goes with
      | hits | misses | declines | proceeds | counts =>
          simp [Progress.map, Progress.next?, Activity.held?, FindPoint.held?, Shared.mapCache,
            Cache.countHit, Cache.owner?]
      | ensures =>
          simp [Progress.map, Progress.next?, Activity.held?, FindPoint.held?, Shared.mapCache]
      | acquires acquired =>
          obtain ⟨owner, free⟩ := taking acquired
          exact ⟨owner, fun same => Or.inr (free same)⟩
      | @inside held stage _ progress goes =>
          have own := owns held rfl
          rw [goes.owner?_eq lock]
          cases progress with
          | next stage =>
              simp only [Progress.map, Progress.next?, Option.bind_some, Activity.held?,
                FindPoint.held?, Option.some.injEq, reduceCtorEq, false_and, if_false]
              refine ⟨?_, Or.inl⟩
              by_cases same : held = lock
              · rw [if_pos same, ← same, own]
              · rw [if_neg same, if_neg same]
          | finish reply =>
              simp [Progress.map, Progress.next?, Activity.held?, FindPoint.held?,
                eq_comm (a := lock)]
  | evict goes =>
      cases goes with
      | finds | misses => simp [Progress.map, Progress.next?, Activity.held?, EvictPoint.held?]
      | acquires acquired =>
          obtain ⟨owner, free⟩ := taking acquired
          exact ⟨owner, fun same => Or.inr (free same)⟩
      | dropsListener held =>
          refine ⟨?_, Or.inl⟩
          by_cases same : held = some lock
          · exact (owns lock same).trans (if_pos same).symm
          · exact ((if_neg same).trans (if_neg same)).symm
      | dropsTrigger held dropped =>
          refine ⟨?_, Or.inl⟩
          by_cases same : some held = some lock
          · exact (owns lock same).trans (if_pos same).symm
          · exact ((if_neg same).trans (if_neg same)).symm
      | finishes =>
          simp [Progress.map, Progress.next?, Activity.held?, EvictPoint.held?, Shared.mapCache,
            Cache.dropTrigger, Cache.owner?]
      | returns held dropped =>
          simp [Progress.map, Progress.next?, Activity.held?, EvictPoint.held?, Shared.mapCache,
            Cache.owner?_release, eq_comm (a := lock)]
  | clear goes =>
      cases goes <;>
        simp [Progress.map, Progress.next?, Activity.held?, Shared.mapCache, Cache.dropListener,
          Cache.dropTrigger, Cache.owner?]

/-- A step leads from a known lock to a known lock: a call is told the lock of its class, and
keeps to it.
-/
theorem Activity.Goes.knowsLock {activity next : Activity} {progress : Progress Activity}
    (goes : activity.Goes ground tick shared reached progress)
    (leads : progress.next? = some next) (knows : activity.KnowsLock shared)
    : next.KnowsLock reached := by
  have keeps {id : TypeId} {lock : LockId} (known : shared.cache.locks.get? id = some lock)
      : reached.cache.locks.get? id = some lock :=
    goes.get?_locks known
  cases goes with
  | find goes =>
      cases goes with
      | hits | misses | declines | proceeds =>
          cases leads
          exact fun _ told => nomatch told
      | counts => cases leads
      | ensures =>
          cases leads
          intro lock told
          cases told
          rw [Shared.mapCache, Cache.get?_locks_ensureLock, if_pos rfl]
      | acquires =>
          cases leads
          exact fun lock told => keeps (knows lock told)
      | @inside held _ _ progress goes =>
          cases progress with
          | next stage =>
              cases leads
              exact fun lock told => keeps (knows lock told)
          | finish => cases leads
  | evict goes =>
      cases goes with
      | misses =>
          cases leads
          exact fun _ told => nomatch told
      | finds known =>
          cases leads
          intro lock told
          cases told
          exact known
      | acquires | dropsListener | dropsTrigger =>
          cases leads
          exact fun lock told => keeps (knows lock told)
      | finishes | returns => cases leads
  | clear goes => cases goes <;> cases leads <;> trivial

-----------------------------------------------------------------------------------------
-- What every schedule keeps
-----------------------------------------------------------------------------------------

/-- The locks of a machine are in order: every call that knows a lock knows the lock of its class,
and a thread owns exactly the lock that its call holds.
-/
structure Machine.Ordered (machine : Machine) : Prop where
  knows
    : ∀ {id activity},
        machine.activity? id = some activity
        → activity.KnowsLock machine.shared
  owner_iff
    : ∀ lock id,
        machine.shared.cache.owner? lock = some id
        ↔ (machine.activity? id).bind Activity.held? = some lock

namespace Machine

variable {machine next : Machine}

theorem Ordered.initial (requests : List (List Request)) : (Machine.initial requests).Ordered where
  knows under := by
    rw [activity?_initial] at under
    cases under
  owner_iff lock id := by
    rw [activity?_initial]
    simp [Machine.initial, Shared.empty]

/-- A move keeps the locks in order. A thread that begins a call has no lock; one that goes on
with its call owns the lock of the new point, and what it does to locks concerns only its own.
-/
theorem Ordered.move (ordered : machine.Ordered) (moved : Moves ground tick machine next)
    : next.Ordered := by
  rcases moved.view with ⟨idle, same, request, view, -⟩
    | ⟨activity, progress, busy, goes, view, -⟩
  · refine ⟨?_, ?_⟩
    · intro id activity under
      rw [view] at under
      rw [same]
      split at under
      · cases under
        exact request.knowsLock_begin machine.shared
      · exact ordered.knows under
    · intro lock id
      rw [same, view, ordered.owner_iff]
      split
      · rename_i own
        simp [own, idle]
      · rfl
  · have owns (lock : LockId) (held : activity.held? = some lock)
        : machine.shared.cache.owner? lock = some tick.thread := by
      rw [ordered.owner_iff, busy]
      exact held
    refine ⟨?_, ?_⟩
    · intro id other under
      rw [view] at under
      split at under
      · exact goes.knowsLock under (ordered.knows busy)
      · exact (ordered.knows under).mono (fun known => goes.get?_locks known)
    · intro lock id
      obtain ⟨owner, free⟩ := goes.owner?_eq owns lock
      rw [owner, view]
      -- Whose lock it is changes only for the thread that moves; a lock that it takes was free, so
      -- nobody else loses it.
      by_cases own : id = tick.thread
      · subst own
        rw [if_pos rfl]
        by_cases after : progress.next?.bind Activity.held? = some lock
        · simp [after]
        · by_cases before : activity.held? = some lock
          · simp [after, before]
          · have unowned : machine.shared.cache.owner? lock ≠ some tick.thread := by
              rw [ne_eq, ordered.owner_iff, busy]
              exact before
            simp [after, before, unowned]
      · rw [if_neg own, ← ordered.owner_iff]
        by_cases after : progress.next?.bind Activity.held? = some lock
        · rw [if_pos after]
          rcases free after with before | unowned
          · rw [owns lock before]
          · simp [unowned, Ne.symm own]
        · rw [if_neg after]
          by_cases before : activity.held? = some lock
          · simp [before, owns lock before, Ne.symm own]
          · rw [if_neg before]

/-- The locks of a machine are in order after every schedule. -/
theorem Ordered.run (requests : List (List Request)) (schedule : List Tick)
    : ((Machine.initial requests).run ground schedule).Ordered :=
  run_induction Ordered (.initial requests) (fun _ _ _ ordered _ moved => ordered.move moved)

/-- A class that has a lock keeps it under every schedule. -/
theorem get?_locks_run (machine : Machine) (schedule : List Tick) {id : TypeId} {lock : LockId}
    (known : machine.shared.cache.locks.get? id = some lock)
    : (machine.run ground schedule).shared.cache.locks.get? id = some lock := by
  refine run_induction
    (fun reached => reached.shared.cache.locks.get? id = some lock) known ?_
  intro before tick next known _ moved
  rcases moved.view with ⟨_, same, _⟩ | ⟨_, _, _, goes, _⟩
  · exact same ▸ known
  · exact goes.get?_locks known

/-- The call of the thread is at work on the class. -/
def Resolving (machine : Machine) (thread : ThreadId) (id : TypeId) : Prop :=
  ∃ activity, machine.activity? thread = some activity ∧ activity.WorksOn id

/-- Two calls at work on one class are one: both hold the lock of the class, which has one owner.
-/
theorem Ordered.resolving_unique (ordered : machine.Ordered) {thread other : ThreadId} {id : TypeId}
    (works : machine.Resolving thread id) (too : machine.Resolving other id)
    : thread = other := by
  have owns {thread} (works : machine.Resolving thread id)
      : ∃ lock,
          machine.shared.cache.locks.get? id = some lock
          ∧ machine.shared.cache.owner? lock = some thread := by
    obtain ⟨activity, under, working⟩ := works
    obtain ⟨cls, factory, lock, stage, rfl, rfl⟩ := working.eq_inside
    refine ⟨lock, ordered.knows under lock rfl, (ordered.owner_iff lock thread).mpr ?_⟩
    rw [under]
    rfl
  obtain ⟨lock, known, owned⟩ := owns works
  obtain ⟨lock', known', owned'⟩ := owns too
  obtain rfl := Option.some.inj (known.symm.trans known')
  exact Option.some.inj (owned.symm.trans owned')

end Machine

end Lifecycle.Concurrent
