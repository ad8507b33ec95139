import Lifecycle.Proofs.Concurrent.Settlement

/-! No schedule leads threads that only ask for listeners into a deadlock. Whoever waits for a lock
waits for a call that can go on, and every step brings all calls nearer to their end.
-/

namespace Lifecycle.Concurrent

-----------------------------------------------------------------------------------------
-- How many steps are left
-----------------------------------------------------------------------------------------

/-- A bound on the steps that a call takes from a stage on. -/
def Stage.rank : Stage → Nat
  | .relookListener => 8
  | .relookTrigger => 7
  | .countCheck => 6
  | .consult => 5
  | .insertListener => 4
  | .insertTrigger _ => 3
  | .release _ | .unwind => 2

/-- A bound on the steps that a call to find a listener takes from a point on. -/
def FindPoint.rank : FindPoint → Nat
  | .lookListener => 12
  | .lookTrigger => 11
  | .ensureLock => 10
  | .acquire _ => 9
  | .inside _ stage => stage.rank
  | .countHit _ => 1

/-- A bound on the steps that are left to a call to find a listener. -/
def Activity.rank : Activity → Nat
  | .find _ _ point => point.rank
  | .evict _ _ | .clear _ => 0

/-- A bound on the steps that are left to a thread: those of its call, and those of each call that
it has yet to make, with the step that begins it.
-/
def Thread.rank (thread : Thread) : Nat :=
  (thread.current.map Activity.rank).getD 0 + 13 * thread.queue.length

/-- A bound on the steps that are left to all threads. -/
def Machine.rank (machine : Machine) : Nat := total Thread.rank machine.threads

theorem Request.rank_begin_le (request : Request) : request.begin.rank ≤ 12 := by
  cases request with
  | find => exact Nat.le_refl 12
  | evict | clear => exact Nat.zero_le 12

variable {ground : Ground} {tick : Tick} {shared reached : Shared} {mapped : TypeId → Bool}
  {asked : List (List EntityClass)}

/-- Every step of a call to find a listener leaves it fewer steps. -/
theorem Activity.Goes.rank_lt {cls : EntityClass} {factory : Option SessionFactory}
    {point : FindPoint} {progress : Progress Activity}
    (goes : (Activity.find cls factory point).Goes ground tick shared reached progress)
    : (progress.next?.map Activity.rank).getD 0 < (Activity.find cls factory point).rank := by
  cases goes with
  | find goes =>
      cases goes with
      | inside goes =>
          cases goes <;>
            simp [Progress.map, Progress.next?, rank, FindPoint.rank, Stage.rank]
      | hits | misses | declines | proceeds | counts | ensures | acquires =>
          simp [Progress.map, Progress.next?, rank, FindPoint.rank, Stage.rank]

-----------------------------------------------------------------------------------------
-- Somebody can always go on
-----------------------------------------------------------------------------------------

/-- Every lock that a class has goes on to exist, whatever step is taken. -/
theorem Activity.Goes.latched {activity : Activity} {progress : Progress Activity}
    (goes : activity.Goes ground tick shared reached progress) (latched : shared.cache.Latched)
    : reached.cache.Latched := by
  cases goes with
  | find goes =>
      cases goes with
      | hits | misses | declines | proceeds | counts => exact latched
      | ensures => exact latched.ensureLock _
      | acquires acquired => exact latched.acquire acquired
      | @inside lock _ _ _ goes =>
          cases goes with
          | returns | unwinds => exact latched.release lock _
          | _ => exact latched
  | evict goes =>
      cases goes with
      | finds | misses | dropsListener | dropsTrigger | finishes => exact latched
      | acquires acquired => exact latched.acquire acquired
      | returns lock => exact latched.release lock false
  | clear goes => cases goes <;> exact latched

namespace Machine

variable {machine next : Machine}

/-- Every move of threads that only ask for listeners leaves them fewer steps. -/
theorem Moves.rank_lt (moved : Moves ground tick machine next)
    (finds : machine.Finds asked.flatten)
    : next.rank < machine.rank := by
  cases moved with
  | @begins thread request queue found free queued =>
      have sum := total_set Thread.rank
        { thread with current := some request.begin, queue } found
      have begun := request.rank_begin_le
      simp only [Thread.rank, free, queued, Option.map_some, Option.map_none, Option.getD_some,
        Option.getD_none, List.length_cons] at sum
      show total Thread.rank (machine.threads.set tick.thread _)
        < total Thread.rank machine.threads
      omega
  | @acts thread activity shared progress found busy goes =>
      obtain ⟨cls, -, point, rfl⟩ := finds tick.thread activity (by simp [activity?, found, busy])
      have sum := total_set Thread.rank
        (thread.proceed (.find cls none point) progress) found
      have fewer := goes.rank_lt
      have left : (thread.proceed (.find cls none point) progress).rank
          = (progress.next?.map Activity.rank).getD 0 + 13 * thread.queue.length := by
        cases progress <;> rfl
      have had : thread.rank
          = (Activity.find cls none point).rank + 13 * thread.queue.length := by
        simp [Thread.rank, busy]
      show total Thread.rank (machine.threads.set tick.thread _)
        < total Thread.rank machine.threads
      omega

/-- The lock of every class exists, after every schedule. -/
theorem latched_run (ground : Ground) (requests : List (List Request)) (schedule : List Tick)
    : ((Machine.initial requests).run ground schedule).shared.cache.Latched := by
  refine run_induction (fun machine => machine.shared.cache.Latched) ?_ ?_
  · exact fun _ _ known => nomatch known
  · intro before tick next latched _ moved
    rcases moved.view with ⟨_, same, _⟩ | ⟨_, _, _, goes, _⟩
    · exact same ▸ latched
    · exact goes.latched latched

/-- A call to find a listener can take its next step, unless it waits for a lock that somebody
holds.
-/
theorem step?_find_isSome (machine : Machine) (tick : Tick) (cls : EntityClass) (point : FindPoint)
    (latched : machine.shared.cache.Latched)
    (knows : (Activity.find cls none point).KnowsLock machine.shared)
    : ((Activity.find cls none point).step? ground tick machine.shared).isSome
      ∨ ∃ lock owner, point = .acquire lock ∧ machine.shared.cache.owner? lock = some owner := by
  cases point with
  | acquire lock =>
      cases owned : machine.shared.cache.owner? lock with
      | some owner => exact Or.inr ⟨lock, owner, rfl, owned⟩
      | none =>
          have made := latched cls.id lock (knows lock rfl)
          have taken := machine.shared.cache.acquire?_isSome tick.thread made owned
          simp [Activity.step?, FindPoint.step?, taken]
  | lookListener =>
      refine Or.inl ?_
      cases found : machine.shared.cache.listeners.get? cls.id <;>
        simp [Activity.step?, FindPoint.step?, found]
  | lookTrigger =>
      refine Or.inl ?_
      by_cases flag : machine.shared.cache.triggers.get? cls.id = some false <;>
        simp [Activity.step?, FindPoint.step?, flag]
  | countHit | ensureLock | inside => exact Or.inl rfl

/-- As long as a call has not come back some thread can take a step: a thread that waits for a lock
waits for one whose call is inside the lock, where nothing holds it up.
-/
theorem exists_step?_of_busy (ordered : machine.Ordered) (latched : machine.shared.cache.Latched)
    (finds : machine.Finds asked.flatten) (busy : machine.isIdle = false)
    : ∃ thread next, machine.step? ground (.steady mapped thread) = some next := by
  have acts {own : ThreadId} {thread : Thread} {activity : Activity}
      (found : machine.threads[own]? = some thread) (current : thread.current = some activity)
      (able : (activity.step? ground (.steady mapped own) machine.shared).isSome)
      : ∃ thread next, machine.step? ground (.steady mapped thread) = some next := by
    obtain ⟨⟨shared, progress⟩, stepped⟩ := Option.isSome_iff_exists.mp able
    exact ⟨own, _, step?_of_busy (.steady mapped own) found current stepped⟩
  obtain ⟨thread, member, waiting⟩ := List.all_eq_false.mp busy
  obtain ⟨own, found⟩ := List.getElem?_of_mem member
  cases current : thread.current with
  | none =>
      cases queued : thread.queue with
      | nil => simp [Thread.isDone, current, queued] at waiting
      | cons request queue =>
          have stepped : (machine.step? ground (.steady mapped own)).isSome := by
            simp [step?, Tick.steady, found, Thread.step?, current, queued]
          exact ⟨own, Option.isSome_iff_exists.mp stepped⟩
  | some activity =>
      have under : machine.activity? own = some activity := by simp [activity?, found, current]
      obtain ⟨cls, -, point, rfl⟩ := finds _ _ under
      rcases step?_find_isSome machine (.steady mapped own) cls point latched (ordered.knows under)
        with able | ⟨lock, owner, rfl, owned⟩
      · exact acts found current able
      · obtain ⟨holder, under', held⟩ :=
          Option.bind_eq_some_iff.mp ((ordered.owner_iff lock owner).mp owned)
        obtain ⟨thread', found', current'⟩ := Option.bind_eq_some_iff.mp under'
        obtain ⟨cls', -, point', rfl⟩ := finds _ _ under'
        cases point' with
        | inside lock stage => exact acts found' current' rfl
        | lookListener | lookTrigger | countHit | ensureLock | acquire => cases held

/-- Every schedule of threads that only ask for listeners can be continued until every call has
come back.
-/
theorem exists_isIdle (ground : Ground) (mapped : TypeId → Bool) (asked : List (List EntityClass))
    (schedule : List ThreadId)
    : ∃ rest : List ThreadId,
        ((Machine.finding asked).run ground
          ((schedule ++ rest).map (Tick.steady mapped))).isIdle := by
  generalize bound : ((Machine.finding asked).run ground
    (schedule.map (Tick.steady mapped))).rank = rank
  -- Some thread can always move, and a move lowers the rank.
  induction rank using Nat.strongRecOn generalizing schedule with
  | ind rank ih =>
      cases busy : ((Machine.finding asked).run ground
          (schedule.map (Tick.steady mapped))).isIdle with
      | true => exact ⟨[], by rw [List.append_nil]; exact busy⟩
      | false =>
          have ordered
              : ((finding asked).run ground (schedule.map (Tick.steady mapped))).Ordered :=
            .run _ _
          obtain ⟨thread, next, stepped⟩
              : ∃ thread next,
                  ((finding asked).run ground (schedule.map (Tick.steady mapped))).step? ground
                      (.steady mapped thread)
                    = some next :=
            exists_step?_of_busy ordered (latched_run ground _ _) (.run asked _) busy
          have reached
              : (Machine.finding asked).run ground
                  ((schedule ++ [thread]).map (Tick.steady mapped))
                = next := by
            rw [List.map_append, run_append, List.map_singleton, run_cons, stepped]
            rfl
          have fewer := (moves_of_step? stepped).rank_lt (.run asked _)
          obtain ⟨rest, idle⟩ := ih next.rank (bound ▸ fewer) (schedule ++ [thread])
            (congrArg Machine.rank reached)
          exact ⟨thread :: rest, by simpa using idle⟩

end Machine

end Lifecycle.Concurrent
