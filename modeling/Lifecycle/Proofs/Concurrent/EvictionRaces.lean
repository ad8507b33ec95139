import Lifecycle.Proofs.Concurrent.Vacancy

/-! Resolutions that race with evictions. Whatever is evicted between any two of its steps, a call
that comes to put in a listener finds the place of its class vacant, and gives back the listener
that it put there.
-/

namespace Lifecycle.Concurrent

variable {ground : Ground} {tick : Tick} {shared reached : Shared}

-----------------------------------------------------------------------------------------
-- The listeners that a schedule builds
-----------------------------------------------------------------------------------------

/-- The class for which the next step of the call builds a listener. -/
def Activity.inserting? : Activity → Option EntityClass
  | .find cls _ (.inside _ .insertListener) => some cls
  | _ => none

/-- The steps that build a listener use up a serial number each, and no others do. Every listener
that is built is kept, since the call that builds it finds the place vacant.
-/
theorem Activity.Goes.counts {activity : Activity} {progress : Progress Activity}
    (goes : activity.Goes ground tick shared reached progress) (relies : activity.Relies shared)
    : reached.cache.created = shared.cache.created + activity.inserting?.toList.length
      ∧ reached.cache.nextSerial
        = shared.cache.nextSerial + activity.inserting?.toList.length := by
  cases goes with
  | find goes =>
      cases goes with
      | hits | misses | declines | proceeds | counts | acquires => exact ⟨rfl, rfl⟩
      | ensures =>
          rw [Shared.mapCache, Cache.ensureLock_frame]
          exact ⟨rfl, rfl⟩
      | inside goes =>
          cases goes with
          | yields occupied => cases relies.1.symm.trans occupied
          | _ => exact ⟨rfl, rfl⟩
  | evict goes => cases goes <;> exact ⟨rfl, rfl⟩
  | clear goes => cases goes <;> exact ⟨rfl, rfl⟩

namespace Machine

variable {machine next : Machine}

/-- The listener that is built by the step of a tick. -/
def built? (ground : Ground) (machine : Machine) (tick : Tick) : Option Listener :=
  ((machine.activity? tick.thread).bind Activity.inserting?).map (ground.build machine.shared)

/-- The listeners that are built in the course of a schedule, the first one first. -/
def built (ground : Ground) (machine : Machine) : List Tick → List Listener
  | [] => []
  | tick :: rest =>
      (machine.built? ground tick).toList
        ++ ((machine.step? ground tick).getD machine).built ground rest

/-- A step that would build a listener is never held up. -/
theorem built?_of_step?_none (held : machine.step? ground tick = none)
    : machine.built? ground tick = none := by
  cases new : machine.built? ground tick with
  | none => rfl
  | some listener =>
      obtain ⟨_, inserting, -⟩ := Option.map_eq_some_iff.mp new
      obtain ⟨activity, under, inserting⟩ := Option.bind_eq_some_iff.mp inserting
      obtain ⟨thread, found, busy⟩ := Option.bind_eq_some_iff.mp under
      match activity, inserting, busy with
      | .find cls factory (.inside lock .insertListener), _, busy =>
          rw [step?_of_busy tick found busy rfl] at held
          cases held

/-- Between them the counters of created listeners and of serial numbers tell what a move builds.
-/
theorem Moves.counts (moved : Moves ground tick machine next) (sound : machine.Sound)
    : next.shared.cache.created
        = machine.shared.cache.created + (machine.built? ground tick).toList.length
      ∧ next.shared.cache.nextSerial
        = machine.shared.cache.nextSerial + (machine.built? ground tick).toList.length := by
  have same (inserting : Option EntityClass)
      : (inserting.map (ground.build machine.shared)).toList.length
        = inserting.toList.length := by
    cases inserting <;> rfl
  rw [built?, same]
  rcases moved.view with ⟨idle, unchanged, _⟩ | ⟨activity, progress, busy, goes, _⟩
  · rw [idle, unchanged]
    exact ⟨rfl, rfl⟩
  · rw [busy]
    exact goes.counts (sound.relies busy)

/-- Over a schedule as many listeners are created as are built, and they are numbered in the order
in which they are built.
-/
theorem counts_run (ground : Ground) (ordered : machine.Ordered) (sound : machine.Sound)
    (schedule : List Tick)
    : (machine.run ground schedule).shared.cache.created
        = machine.shared.cache.created + (machine.built ground schedule).length
      ∧ (machine.built ground schedule).map Listener.serial
        = List.range' machine.shared.cache.nextSerial (machine.built ground schedule).length := by
  induction schedule generalizing machine with
  | nil => exact ⟨rfl, rfl⟩
  | cons tick rest ih =>
      rw [run_cons, built]
      cases stepped : machine.step? ground tick with
      | none =>
          rw [built?_of_step?_none stepped]
          exact ih ordered sound
      | some next =>
          have moved := moves_of_step? stepped
          obtain ⟨created, serial⟩ := moved.counts sound
          obtain ⟨created', serials⟩ := ih (ordered.move moved) (sound.move ordered moved)
          refine ⟨?_, ?_⟩
          · rw [Option.getD_some, created', created, List.length_append, Nat.add_assoc]
          · rw [Option.getD_some, List.map_append, serials, serial, List.length_append]
            cases new : machine.built? ground tick with
            | none => simp
            | some listener =>
                obtain ⟨cls, -, rfl⟩ := Option.map_eq_some_iff.mp new
                simp [Ground.build, Listener.make, Nat.add_comm 1, List.range'_succ]

-----------------------------------------------------------------------------------------
-- What becomes of a listener once it is built
-----------------------------------------------------------------------------------------

/-- What a thread got back from the call that it made after so many others. -/
def reply? (machine : Machine) (thread : ThreadId) (place : Nat) : Option (Request × Reply) :=
  machine.threads[thread]?.bind (fun thread => thread.replies[place]?)

/-- How many calls of a thread have come back. -/
def answered (machine : Machine) (thread : ThreadId) : Nat :=
  (machine.threads[thread]?.map (fun thread => thread.replies.length)).getD 0

end Machine

/-- So many steps of the thread are missing until its call at the place has come back with the
answer: it has to set the trigger of the class and to give the lock back.
-/
def Thread.Owes (thread : Thread) (place : Nat) (cls : EntityClass)
    (factory : Option SessionFactory) (lock : LockId) (answer : Option Listener) : Nat → Prop
  | 0 => thread.replies[place]? = some (.find cls factory, .found answer)
  | 1 =>
      thread.current = some (.find cls factory (.inside lock (.release answer)))
      ∧ thread.replies.length = place
  | 2 =>
      thread.current = some (.find cls factory (.inside lock (.insertTrigger answer)))
      ∧ thread.replies.length = place
  | _ + 3 => False

section Owing

variable {machine : Machine} {thread : Thread} {own : ThreadId} {place left : Nat}
  {cls : EntityClass} {factory : Option SessionFactory} {lock : LockId} {answer : Option Listener}

/-- A tick of the thread brings the answer one step nearer, and no other tick matters to it. -/
theorem Thread.Owes.step (found : machine.threads[own]? = some thread)
    (owes : thread.Owes place cls factory lock answer left) (tick : Tick)
    : ∃ changed : Thread,
        ((machine.step? ground tick).getD machine).threads[own]? = some changed
        ∧ changed.Owes place cls factory lock answer (left - [tick].countP (·.thread = own)) := by
  by_cases same : tick.thread = own
  · subst same
    have inside := (List.getElem?_eq_some_iff.mp found).1
    simp only [List.countP_singleton, decide_true, if_true]
    match left, owes with
    | 0, owes =>
        cases stepped : machine.step? ground tick with
        | none => exact ⟨thread, found, owes⟩
        | some next =>
            cases Machine.moves_of_step? stepped with
            | @begins thread' request queue found' free queued =>
                obtain rfl := Option.some.inj (found.symm.trans found')
                exact ⟨_, List.getElem?_set_self inside, owes⟩
            | @acts thread' activity shared progress found' busy goes =>
                obtain rfl := Option.some.inj (found.symm.trans found')
                refine ⟨_, List.getElem?_set_self inside, ?_⟩
                cases progress with
                | next => exact owes
                | finish reply =>
                    have earlier := (List.getElem?_eq_some_iff.mp owes).1
                    exact (List.getElem?_append_left earlier).trans owes
    | 1, ⟨current, length⟩ =>
        rw [Machine.step?_of_busy tick found current rfl]
        refine ⟨_, List.getElem?_set_self inside, ?_⟩
        simp [Owes, Thread.proceed, Progress.map, Activity.request, ← length]
    | 2, ⟨current, length⟩ =>
        rw [Machine.step?_of_busy tick found current rfl]
        exact ⟨_, List.getElem?_set_self inside, rfl, length⟩
  · refine ⟨thread, (Machine.threads_step_of_ne same).trans found, ?_⟩
    simpa [same] using owes

/-- Once as many steps were taken as were missing, the answer is there to stay. -/
theorem Thread.Owes.run (machine : Machine) (found : machine.threads[own]? = some thread)
    (owes : thread.Owes place cls factory lock answer left) (schedule : List Tick)
    : ∃ changed : Thread,
        (machine.run ground schedule).threads[own]? = some changed
        ∧ changed.Owes place cls factory lock answer (left - schedule.countP (·.thread = own)) := by
  induction schedule generalizing machine thread left with
  | nil => exact ⟨thread, found, owes⟩
  | cons tick rest ih =>
      obtain ⟨changed, found', owes'⟩ := owes.step found tick
      obtain ⟨last, found'', owes''⟩ := ih _ found' owes'
      refine ⟨last, found'', ?_⟩
      rwa [Nat.sub_sub, ← List.countP_append, List.singleton_append] at owes''

end Owing

namespace Machine

variable {machine : Machine}

/-- A call that is about to put in a listener gives back the listener that it builds by that step:
it comes back with it after two more steps of its own, whatever other threads do in between.
-/
theorem Sound.reply?_of_inserting (sound : machine.Sound) {cls : EntityClass}
    {factory : Option SessionFactory} {lock : LockId}
    (under
      : machine.activity? tick.thread = some (.find cls factory (.inside lock .insertListener)))
    (rest : List Tick)
    : (machine.run ground (tick :: rest)).reply? tick.thread (machine.answered tick.thread)
      = if 2 ≤ rest.countP (·.thread = tick.thread) then
          some (.find cls factory, .found (some (ground.build machine.shared cls)))
        else none := by
  obtain ⟨thread, found, busy⟩ := Option.bind_eq_some_iff.mp under
  have inside := (List.getElem?_eq_some_iff.mp found).1
  have vacant := (sound.relies under).1
  have acts
      : (Activity.find cls factory (.inside lock .insertListener)).step? ground tick machine.shared
        = some (machine.shared.store (ground.build machine.shared cls),
            .next (.find cls factory
              (.inside lock (.insertTrigger (some (ground.build machine.shared cls)))))) := by
    simp [Activity.step?, FindPoint.step?, Stage.step, Cache.makeListener, Cache.addListener,
      Listener.make, vacant, Progress.map, Shared.store, Shared.mapCache, Ground.build]
  rw [run_cons, step?_of_busy tick found busy acts, Option.getD_some, answered, found]
  have owes
      : (thread.proceed (.find cls factory (.inside lock .insertListener)) (.next _)).Owes
          thread.replies.length cls factory lock (some (ground.build machine.shared cls)) 2 :=
    ⟨rfl, rfl⟩
  obtain ⟨last, found', owes⟩ := owes.run
    ⟨machine.shared.store _, machine.threads.set tick.thread _⟩
    (List.getElem?_set_self inside) rest
  rw [reply?, found']
  split
  · rename_i enough
    rw [Nat.sub_eq_zero_of_le enough] at owes
    exact owes
  · rename_i few
    have missing : 2 - rest.countP (·.thread = tick.thread) = 1
        ∨ 2 - rest.countP (·.thread = tick.thread) = 2 := by omega
    refine List.getElem?_eq_none (Nat.le_of_eq ?_)
    rcases missing with one | two
    · rw [one] at owes
      exact owes.2
    · rw [two] at owes
      exact owes.2

/-- Resolutions are safe from evictions that race with them. However the steps of any calls
interleave, whatever the mapping says at each of them and even if it panics: no two calls are at
work on one class; no class has a listener and a trigger that forbids it; a call that is about to
put in a listener finds the place vacant, and comes back with the listener it puts there; as many
listeners are counted as such steps were taken, and no two of these listeners are the same; and a
class that has a lock has it for good.
-/
theorem resolution_safe (ground : Ground) (requests : List (List Request)) (schedule : List Tick)
    : let machine := (Machine.initial requests).run ground schedule
      (∀ id thread other,
        machine.Resolving thread id → machine.Resolving other id → thread = other)
      ∧ (∀ id,
          ¬ ((machine.shared.cache.listeners.get? id).isSome
            ∧ machine.shared.cache.triggers.get? id = some false))
      ∧ (∀ thread cls factory lock,
          machine.activity? thread = some (.find cls factory (.inside lock .insertListener))
          → machine.shared.cache.listeners.get? cls.id = none
            ∧ ∀ tick rest,
                tick.thread = thread
                → (machine.run ground (tick :: rest)).reply? thread (machine.answered thread)
                  = if 2 ≤ rest.countP (·.thread = thread) then
                      some (.find cls factory, .found (some (ground.build machine.shared cls)))
                    else none)
      ∧ machine.shared.cache.created = ((Machine.initial requests).built ground schedule).length
      ∧ (((Machine.initial requests).built ground schedule).map Listener.serial).Nodup
      ∧ (∀ id lock,
          machine.shared.cache.locks.get? id = some lock
          → ∀ rest, (machine.run ground rest).shared.cache.locks.get? id = some lock) := by
  intro machine
  have ordered : machine.Ordered := .run requests schedule
  have sound : machine.Sound := .run requests schedule
  obtain ⟨created, serials⟩ := counts_run ground (.initial requests)
    (.initial requests) schedule
  refine ⟨?_, ?_, ?_, ?_, ?_, ?_⟩
  · intro id thread other works too
    exact ordered.resolving_unique works too
  · rintro id ⟨present, forbidden⟩
    exact sound.coherent id present forbidden
  · intro thread cls factory lock under
    refine ⟨(sound.relies under).1, ?_⟩
    rintro tick rest rfl
    exact sound.reply?_of_inserting under rest
  · rw [created]
    exact Nat.zero_add _
  · rw [serials]
    exact List.nodup_range'
  · intro id lock known rest
    exact machine.get?_locks_run rest known

end Machine

end Lifecycle.Concurrent
