import Lifecycle.Proofs.Concurrent.Ledger
import Lifecycle.Proofs.Concurrent.Places

/-! On what the entries and the answers of a machine rest. What the cache says of a class was
decided by calls that had taken the lock of the class, and so was whatever is answered of the class:
if all these decisions are of one kind, so is everything that is answered, and a step keeps it so.
The kind that matters in the end is that of the decisions that were made after an eviction.
-/

namespace Lifecycle.Concurrent

open Function (update update_self update_of_ne)

/-- What a call to find a listener decides when it asks the mapping by this tick, unless the mapping
panics: whether the class has a listener.
-/
def Tick.eligible? (tick : Tick) (ground : Ground) (cls : EntityClass)
    (factory : Option SessionFactory)
    : Option Bool :=
  if ground.policy.owns cls factory then
    match tick.verdict cls with
    | .mapped => some true
    | .unmapped => some false
    | .panics => none
  else some false

variable {ground : Ground} {tick : Tick} {shared reached : Shared} {id : TypeId}
  {moment place : Nat} {ledger : Ledger} {decided : Nat → Bool → Prop} {bound : Nat}

-----------------------------------------------------------------------------------------
-- Entries and answers that rest on decisions
-----------------------------------------------------------------------------------------

/-- What the cache says of a class is what has been decided, and a listener of the class has at
least the given serial number.
-/
structure Ledger.Covers (ledger : Ledger) (shared : Shared) (id : TypeId)
    (decided : Nat → Bool → Prop) (bound : Nat) : Prop where
  listener
    : ∀ {listener},
        shared.cache.listeners.get? id = some listener
        → decided (ledger.listener id) true ∧ bound ≤ listener.serial
  trigger : shared.cache.triggers.get? id = some false → decided (ledger.trigger id) false

/-- A class of which the cache says nothing is covered by whatever the ledger says. -/
theorem Ledger.Covers.of_absent (absent : shared.cache.listeners.get? id = none)
    (silent : shared.cache.triggers.get? id = none)
    : ledger.Covers shared id decided bound :=
  ⟨fun found => (nomatch absent.symm.trans found), fun found => (nomatch silent.symm.trans found)⟩

/-- A class that is partly forgotten is covered by a ledger that says of it what it said. -/
theorem Ledger.Covers.forgets {after : Ledger} (covers : ledger.Covers shared id decided bound)
    (forgets : shared.Forgets reached id) (listener : after.listener id = ledger.listener id)
    (trigger : after.trigger id = ledger.trigger id)
    : after.Covers reached id decided bound := by
  constructor
  · intro found present
    rcases forgets.listeners with same | lost
    · rw [listener]
      exact covers.listener (same.symm.trans present)
    · cases lost.symm.trans present
  · intro declined
    rcases forgets.triggers with same | lost
    · rw [trigger]
      exact covers.trigger (same.symm.trans declined)
    · cases lost.symm.trans declined

/-- An answer is what has been decided, and a listener that it gives has at least the given serial
number.
-/
def Ledger.Backs (decided : Nat → Bool → Prop) (bound : Nat) (moment : Nat)
    (answer : Option Listener) : Prop :=
  decided moment answer.isSome ∧ ∀ listener, answer = some listener → bound ≤ listener.serial

/-- A listener in the cache is backed by the decision on which it rests. -/
theorem Ledger.Covers.backs_listener {listener : Listener}
    (covers : ledger.Covers shared id decided bound)
    (found : shared.cache.listeners.get? id = some listener)
    : Ledger.Backs decided bound (ledger.listener id) (some listener) := by
  obtain ⟨moment, serial⟩ := covers.listener found
  refine ⟨moment, fun _ same => ?_⟩
  cases same
  exact serial

/-- That there is no listener needs nothing but a decision. -/
theorem Ledger.Backs.none (declined : decided moment false)
    : Ledger.Backs decided bound moment none :=
  ⟨declined, fun _ same => (nomatch same)⟩

/-- What a call to find a listener has come to so far is what has been decided, if it has come to
anything.
-/
def FindPoint.Rests (ledger : Ledger) (thread : ThreadId) (decided : Nat → Bool → Prop)
    (bound : Nat) : FindPoint → Prop
  | .countHit answer => Ledger.Backs decided bound (ledger.answer thread) answer
  | .inside _ .insertListener => decided (ledger.answer thread) true
  | .inside _ (.insertTrigger answer) => Ledger.Backs decided bound (ledger.answer thread) answer
  | .inside _ (.release answer) => Ledger.Backs decided bound (ledger.answer thread) answer
  | _ => True

/-- What a call has come to rests on what the ledger says of its own thread. -/
theorem FindPoint.Rests.of_answer {after : Ledger} {thread : ThreadId} {point : FindPoint}
    (rests : point.Rests ledger thread decided bound)
    (same : after.answer thread = ledger.answer thread)
    : point.Rests after thread decided bound := by
  unfold Rests at rests ⊢
  rwa [same]

/-- The step of a call leaves behind only entries that have been decided, if what it has come to on
its class has.
-/
theorem Activity.Goes.covers {activity : Activity} {progress : Progress Activity}
    (goes : activity.Goes ground tick shared reached progress)
    (covers : ledger.Covers shared id decided bound)
    (rests
      : ∀ cls factory point,
          activity = .find cls factory point
          → activity.WorksOn id
          → point.Rests ledger tick.thread decided bound)
    (numbered : bound ≤ shared.cache.nextSerial)
    : (ledger.note moment shared tick.thread place activity).Covers reached id decided bound := by
  by_cases works : activity.WorksOn id
  · obtain ⟨cls, factory, lock, stage, rfl, rfl⟩ := works.eq_inside
    have rests := rests cls factory _ rfl works
    cases goes with
    | find goes =>
        cases goes with
        | inside goes =>
            cases goes with
            | inserts vacant =>
                simp only [Ledger.note, Ledger.noteInside, vacant]
                refine ⟨?_, covers.trigger⟩
                intro listener found
                obtain rfl : ground.build shared cls = listener :=
                  Option.some.inj (((Table.get?_insert ..).trans (if_pos rfl)).symm.trans found)
                have granted : decided (ledger.answer tick.thread) true := rests
                refine ⟨?_, numbered⟩
                simpa only [update_self] using granted
            | yields occupied =>
                simp only [Ledger.note, Ledger.noteInside, occupied]
                exact ⟨covers.listener, covers.trigger⟩
            | flags answer =>
                refine ⟨covers.listener, fun declined => ?_⟩
                have same : some answer.isSome = some false :=
                  ((Table.get?_insert ..).trans (if_pos rfl)).symm.trans declined
                have backed : decided (ledger.answer tick.thread) answer.isSome := rests.1
                rw [Option.some.inj same] at backed
                simpa only [Ledger.note, Ledger.noteInside, update_self] using backed
            | relooks | misses | declines | proceeds | counts | disowns | maps | unmaps | panics
            | returns | unwinds => exact ⟨covers.listener, covers.trigger⟩
  · obtain ⟨listener, trigger⟩ := Ledger.note_of_not_worksOn works
    exact covers.forgets (goes.forgets works) listener trigger

/-- The step of a call to find the listener of a class comes only to what has been decided, if it
reads only that, and decides only that.
-/
theorem FindPoint.Goes.rests {cls : EntityClass} {factory : Option SessionFactory}
    {point : FindPoint} {progress : Progress FindPoint}
    (goes : point.Goes ground tick cls factory shared reached progress)
    (covers : ledger.Covers shared cls.id decided bound)
    (decides
      : ∀ lock eligible,
          point = .inside lock .consult
          → tick.eligible? ground cls factory = some eligible
          → decided (ledger.entered tick.thread) eligible)
    (numbered : bound ≤ shared.cache.nextSerial)
    (rests : point.Rests ledger tick.thread decided bound)
    : let noted := ledger.note moment shared tick.thread place (.find cls factory point)
      (∀ later, progress.next? = some later → later.Rests noted tick.thread decided bound)
      ∧ ∀ answer,
          progress = .finish (.found answer)
          → Ledger.Backs decided bound (noted.reply tick.thread place) answer := by
  -- A step leads on to another point, or it comes back with what the call has come to.
  have going {noted : Ledger} {later : FindPoint}
      (rests : later.Rests noted tick.thread decided bound)
      : (∀ point,
          (Progress.next later).next? = some point → point.Rests noted tick.thread decided bound)
        ∧ ∀ answer,
            Progress.next later = .finish (.found answer)
            → Ledger.Backs decided bound (noted.reply tick.thread place) answer := by
    constructor
    · intro point leads
      cases leads
      exact rests
    · intro answer ends
      cases ends
  have coming {given : Option Listener}
      (backs : Ledger.Backs decided bound (ledger.answer tick.thread) given)
      : (∀ point,
          (Progress.finish (Reply.found given) : Progress FindPoint).next? = some point
          → point.Rests (ledger.finish tick.thread place) tick.thread decided bound)
        ∧ ∀ answer,
            (Progress.finish (Reply.found given) : Progress FindPoint) = .finish (.found answer)
            → Ledger.Backs decided bound
                ((ledger.finish tick.thread place).reply tick.thread place) answer := by
    constructor
    · intro point leads
      cases leads
    · intro answer ends
      cases ends
      simpa only [Ledger.finish, update_self] using backs
  have resting {moment : Nat} {given : Option Listener}
      (backs : Ledger.Backs decided bound moment given)
      : Ledger.Backs decided bound ((ledger.rest tick.thread moment).answer tick.thread) given := by
    rwa [ledger.answer_rest]
  cases goes with
  | hits found => exact going (resting (covers.backs_listener found))
  | declines flag => exact going (resting (.none (covers.trigger flag)))
  | misses | proceeds | ensures | acquires => exact going trivial
  | counts answer => exact coming rests
  | @inside lock stage _ _ goes =>
      cases goes with
      | relooks found => exact going (resting (covers.backs_listener found))
      | declines flag => exact going (resting (.none (covers.trigger flag)))
      | disowns foreign =>
          have declined : tick.eligible? ground cls factory = some false := by
            simp [Tick.eligible?, foreign]
          exact going (resting (.none (decides lock false rfl declined)))
      | unmaps owned verdict =>
          have declined : tick.eligible? ground cls factory = some false := by
            simp [Tick.eligible?, owned, verdict]
          exact going (resting (.none (decides lock false rfl declined)))
      | maps owned verdict =>
          have granted : tick.eligible? ground cls factory = some true := by
            simp [Tick.eligible?, owned, verdict]
          refine going ?_
          show decided ((ledger.rest tick.thread (ledger.entered tick.thread)).answer tick.thread)
            true
          rw [ledger.answer_rest]
          exact decides lock true rfl granted
      | inserts vacant =>
          simp only [Ledger.note, Ledger.noteInside, vacant]
          exact going ⟨rests, fun _ same => Option.some.inj same ▸ numbered⟩
      | yields occupied =>
          simp only [Ledger.note, Ledger.noteInside, occupied]
          exact going (resting (covers.backs_listener occupied))
      | flags answer => exact going rests
      | returns answer => exact coming rests
      | misses | proceeds | counts | panics => exact going trivial
      | unwinds =>
          constructor
          · intro later leads
            cases leads
          · intro answer ends
            cases ends

/-- A call comes to be at work on a class only by taking the lock of the class. -/
theorem Activity.Goes.eq_acquire {activity later : Activity} {progress : Progress Activity}
    (goes : activity.Goes ground tick shared reached progress)
    (leads : progress.next? = some later) (works : later.WorksOn id)
    (elsewhere : ¬ activity.WorksOn id)
    : ∃ cls factory lock, activity = .find cls factory (.acquire lock) := by
  cases goes with
  | find goes =>
      cases goes with
      | acquires => exact ⟨_, _, _, rfl⟩
      | inside =>
          rw [Progress.next?_map, Progress.next?_map] at leads
          obtain ⟨point, entered, rfl⟩ := Option.map_eq_some_iff.mp leads
          obtain ⟨stage, -, rfl⟩ := Option.map_eq_some_iff.mp entered
          exact absurd works elsewhere
      | hits | misses | declines | proceeds | ensures =>
          cases leads
          cases works
      | counts => cases leads
  | evict goes => cases goes <;> cases leads <;> cases works
  | clear goes => cases goes <;> cases leads <;> cases works

/-- A call that comes to be at work on a class has come to nothing. -/
theorem Activity.Goes.rests_acquired {activity : Activity} {progress : Progress Activity}
    {cls : EntityClass} {factory : Option SessionFactory} {point : FindPoint} {thread : ThreadId}
    (goes : activity.Goes ground tick shared reached progress)
    (leads : progress.next? = some (.find cls factory point))
    (works : (Activity.find cls factory point).WorksOn id) (elsewhere : ¬ activity.WorksOn id)
    : point.Rests ledger thread decided bound := by
  obtain ⟨_, _, _, rfl⟩ := goes.eq_acquire leads works elsewhere
  cases goes with
  | find goes =>
      cases goes with
      | acquires =>
          cases leads
          trivial

namespace Machine

variable {machine next : Machine} {thread : ThreadId}

-----------------------------------------------------------------------------------------
-- Classes of which all has been decided
-----------------------------------------------------------------------------------------

/-- Every class of which the cache says anything has a lock. -/
def Guarded (machine : Machine) : Prop :=
  ∀ id,
    machine.shared.cache.locks.get? id = none
    → machine.shared.cache.listeners.get? id = none
      ∧ machine.shared.cache.triggers.get? id = none

/-- Only a call at work on a class puts in entries of the class, and it has the lock of the class.
-/
theorem Guarded.move (guarded : machine.Guarded) (ordered : machine.Ordered)
    (moved : Moves ground tick machine next)
    : next.Guarded := by
  intro id unlocked
  rcases moved.view with ⟨-, same, -⟩ | ⟨activity, progress, busy, goes, -⟩
  · rw [same] at unlocked ⊢
    exact guarded id unlocked
  · have before : machine.shared.cache.locks.get? id = none := by
      cases known : machine.shared.cache.locks.get? id with
      | none => rfl
      | some lock => exact nomatch unlocked.symm.trans (goes.get?_locks known)
    have elsewhere : ¬ activity.WorksOn id := by
      intro works
      obtain ⟨cls, factory, lock, stage, rfl, rfl⟩ := works.eq_inside
      exact nomatch before.symm.trans (ordered.knows busy lock rfl)
    obtain ⟨absent, silent⟩ := guarded id before
    refine ⟨(goes.forgets elsewhere).absent absent, ?_⟩
    rcases (goes.forgets elsewhere).triggers with kept | lost
    · exact kept.trans silent
    · exact lost

theorem Guarded.run (requests : List (List Request)) (schedule : List Tick)
    : ((Machine.initial requests).run ground schedule).Guarded :=
  run_induction Guarded (fun _ _ => ⟨rfl, rfl⟩)
    (fun before _ _ guarded _ moved => guarded.move (.run requests before) moved)

/-- Serial numbers are given out in ascending order. -/
theorem nextSerial_le_run (requests : List (List Request)) (before rest : List Tick)
    : ((Machine.initial requests).run ground before).shared.cache.nextSerial
      ≤ ((Machine.initial requests).run ground (before ++ rest)).shared.cache.nextSerial := by
  rw [run_append]
  refine run_induction
    (fun reached =>
      ((Machine.initial requests).run ground before).shared.cache.nextSerial
        ≤ reached.shared.cache.nextSerial) (Nat.le_refl _) ?_
  intro earlier tick next below _ moved
  rw [← run_append] at moved below
  have sound : ((Machine.initial requests).run ground (before ++ earlier)).Sound := .run requests _
  exact Nat.le_trans below ((moved.counts sound).2 ▸ Nat.le_add_right _ _)

/-- All that the cache says of the class has been decided, and so has all that the calls at work on
it have come to. These calls took the lock of the class as told.
-/
structure Fresh (machine : Machine) (ledger : Ledger) (id : TypeId) (decided : Nat → Bool → Prop)
    (since : ThreadId → Nat → Prop) (bound : Nat) : Prop where
  covers : ledger.Covers machine.shared id decided bound
  since : ∀ {thread}, machine.Resolving thread id → since thread (ledger.entered thread)
  rests
    : ∀ {thread cls factory point},
        machine.activity? thread = some (.find cls factory point)
        → (Activity.find cls factory point).WorksOn id
        → point.Rests ledger thread decided bound

/-- A class of which the cache says nothing and on which nobody is at work is as good as new. -/
theorem Fresh.of_absent {since : ThreadId → Nat → Prop}
    (absent : machine.shared.cache.listeners.get? id = none)
    (silent : machine.shared.cache.triggers.get? id = none)
    (alone : ∀ thread, ¬ machine.Resolving thread id)
    : machine.Fresh ledger id decided since bound :=
  ⟨.of_absent absent silent, fun works => absurd works (alone _),
    fun busy works => absurd ⟨_, busy, works⟩ (alone _)⟩

/-- What is told of when the calls at work on a class took its lock is true after a step if it was
before, and what such a call decides by the step is among what has been decided.
-/
structure Minds (ground : Ground) (tick : Tick) (machine next : Machine) (id : TypeId)
    (moment : Nat) (decided : Nat → Bool → Prop) (since after : ThreadId → Nat → Prop)
    : Prop where
  enters
    : ¬ machine.Resolving tick.thread id
      → next.Resolving tick.thread id
      → after tick.thread moment
  stays
    : ∀ {thread came},
        next.Resolving thread id
        → since thread came
        → after thread came
  decides
    : ∀ {cls factory lock came eligible},
        machine.activity? tick.thread = some (.find cls factory (.inside lock .consult))
        → cls.id = id
        → tick.eligible? ground cls factory = some eligible
        → since tick.thread came
        → decided came eligible

section Step

variable {since after : ThreadId → Nat → Prop}

/-- While a class is fresh, a step of a call to find its listener comes only to what has been
decided.
-/
theorem Fresh.step_of_find {cls : EntityClass} {factory : Option SessionFactory}
    {point : FindPoint} {progress : Progress Activity}
    (fresh : machine.Fresh ledger cls.id decided since bound)
    (minds : Minds ground tick machine next cls.id moment decided since after)
    (rests : point.Rests ledger tick.thread decided bound)
    (numbered : bound ≤ machine.shared.cache.nextSerial)
    (stepped : machine.step? ground tick = some next)
    (busy : machine.activity? tick.thread = some (.find cls factory point))
    (goes
      : (Activity.find cls factory point).Goes ground tick machine.shared next.shared progress)
    : let noted := ledger.record ground machine tick moment
      (∀ later,
        progress.next? = some later
        → ∃ point,
            later = .find cls factory point ∧ point.Rests noted tick.thread decided bound)
      ∧ ∀ answer,
          progress = .finish (.found answer)
          → Ledger.Backs decided bound
              (noted.reply tick.thread (machine.answered tick.thread)) answer := by
  intro noted
  have same : noted = ledger.note moment machine.shared tick.thread
      (machine.answered tick.thread) (.find cls factory point) :=
    Ledger.record_of_busy moment busy stepped
  cases goes with
  | @find _ _ _ _ led goes =>
      have decides (lock : LockId) (eligible : Bool) (consults : point = .inside lock .consult)
          (answers : tick.eligible? ground cls factory = some eligible)
          : decided (ledger.entered tick.thread) eligible := by
        subst consults
        exact minds.decides busy rfl answers (fresh.since ⟨_, busy, rfl⟩)
      obtain ⟨leads, ends⟩ := goes.rests fresh.covers decides numbered rests
      rw [same]
      constructor
      · intro later led
        rw [Progress.next?_map] at led
        obtain ⟨point, came, rfl⟩ := Option.map_eq_some_iff.mp led
        exact ⟨point, rfl, leads point came⟩
      · intro answer ended
        refine ends answer ?_
        cases led with
        | next => cases ended
        | finish => cases ended; rfl

/-- A call that begins keeps a class fresh, since it is at work on none yet. -/
theorem Fresh.step_of_idle {request : Request}
    (fresh : machine.Fresh ledger id decided since bound)
    (minds : Minds ground tick machine next id moment decided since after)
    (same : next.shared = machine.shared)
    (view
      : ∀ thread,
          next.activity? thread
            = if thread = tick.thread then some request.begin else machine.activity? thread)
    : next.Fresh ledger id decided after bound := by
  have older {thread : ThreadId} {activity : Activity}
      (under : next.activity? thread = some activity) (works : activity.WorksOn id)
      : machine.activity? thread = some activity := by
    rw [view] at under
    split at under
    · cases under
      cases request <;> cases works
    · exact under
  refine ⟨?_, ?_, ?_⟩
  · rw [same]
    exact fresh.covers
  · intro thread works
    obtain ⟨activity, under, working⟩ := works
    exact minds.stays ⟨activity, under, working⟩
      (fresh.since ⟨activity, older under working, working⟩)
  · intro thread cls factory point under works
    exact fresh.rests (older under works) works

section Acts

variable {activity : Activity} {progress : Progress Activity}

/-- Whoever is at work on the class after a step has just taken its lock, or took it before. -/
theorem Fresh.since_step (fresh : machine.Fresh ledger id decided since bound)
    (minds : Minds ground tick machine next id moment decided since after)
    (busy : machine.activity? tick.thread = some activity)
    (goes : activity.Goes ground tick machine.shared next.shared progress)
    (view
      : ∀ thread,
          next.activity? thread
            = if thread = tick.thread then progress.next? else machine.activity? thread)
    (works : next.Resolving thread id)
    : after thread
        ((ledger.note moment machine.shared tick.thread place activity).entered thread) := by
  by_cases own : thread = tick.thread
  · subst own
    by_cases before : machine.Resolving tick.thread id
    · have came := minds.stays works (fresh.since before)
      obtain ⟨activity', busy', working⟩ := before
      obtain rfl := Option.some.inj (busy.symm.trans busy')
      obtain ⟨cls, factory, lock, stage, rfl, rfl⟩ := working.eq_inside
      simp only [Ledger.note, Ledger.noteInside]
      repeat' split
      all_goals exact came
    · have now := minds.enters before works
      obtain ⟨later, under, working⟩ := works
      rw [view, if_pos rfl] at under
      have elsewhere : ¬ activity.WorksOn id := fun working => before ⟨activity, busy, working⟩
      obtain ⟨cls, factory, lock, rfl⟩ := goes.eq_acquire under working elsewhere
      show after tick.thread (update ledger.entered tick.thread moment tick.thread)
      rwa [update_self]
  · obtain ⟨other, under, working⟩ := works
    have earlier := under
    rw [view, if_neg own] at earlier
    rw [(Ledger.note_of_ne own).1]
    exact minds.stays ⟨other, under, working⟩ (fresh.since ⟨other, earlier, working⟩)

/-- What the calls at work on the class have come to by a step has been decided. -/
theorem Fresh.rests_step {cls : EntityClass} {factory : Option SessionFactory} {point : FindPoint}
    (fresh : machine.Fresh ledger id decided since bound)
    (minds : Minds ground tick machine next id moment decided since after)
    (numbered : bound ≤ machine.shared.cache.nextSerial)
    (stepped : machine.step? ground tick = some next)
    (busy : machine.activity? tick.thread = some activity)
    (goes : activity.Goes ground tick machine.shared next.shared progress)
    (view
      : ∀ thread,
          next.activity? thread
            = if thread = tick.thread then progress.next? else machine.activity? thread)
    (under : next.activity? thread = some (.find cls factory point))
    (works : (Activity.find cls factory point).WorksOn id)
    : point.Rests (ledger.record ground machine tick moment) thread decided bound := by
  rw [view] at under
  by_cases own : thread = tick.thread
  · subst own
    rw [if_pos rfl] at under
    by_cases before : activity.WorksOn id
    · obtain ⟨cls', factory', lock, stage, rfl, rfl⟩ := before.eq_inside
      obtain ⟨leads, -⟩ :=
        fresh.step_of_find minds (fresh.rests busy before) numbered stepped busy goes
      obtain ⟨point', same, rests⟩ := leads _ under
      cases same
      exact rests
    · exact goes.rests_acquired under works before
  · rw [if_neg own] at under
    rw [Ledger.record_of_busy moment busy stepped]
    exact (fresh.rests under works).of_answer (Ledger.note_of_ne own).2.1

end Acts

/-- A step keeps a class fresh. -/
theorem Fresh.step (fresh : machine.Fresh ledger id decided since bound)
    (minds : Minds ground tick machine next id moment decided since after)
    (stepped : machine.step? ground tick = some next)
    (numbered : bound ≤ machine.shared.cache.nextSerial)
    : next.Fresh (ledger.record ground machine tick moment) id decided after bound := by
  rcases (moves_of_step? stepped).view with ⟨idle, same, request, view, -⟩
    | ⟨activity, progress, busy, goes, view, -⟩
  · rw [Ledger.record_of_idle ground moment idle]
    exact fresh.step_of_idle minds same view
  · have record
        : ledger.record ground machine tick moment
          = ledger.note moment machine.shared tick.thread (machine.answered tick.thread) activity :=
      Ledger.record_of_busy moment busy stepped
    refine ⟨?_, ?_, fresh.rests_step minds numbered stepped busy goes view⟩
    · rw [record]
      refine goes.covers fresh.covers (fun cls factory point same works => ?_) numbered
      subst same
      exact fresh.rests busy works
    · intro thread works
      rw [record]
      exact fresh.since_step minds busy goes view works

/-- A tick keeps a class fresh, whether its thread can take a step or not. -/
theorem Fresh.onward (fresh : machine.Fresh ledger id decided since bound)
    (minds
      : Minds ground tick machine ((machine.step? ground tick).getD machine) id moment decided
          since after)
    (numbered : bound ≤ machine.shared.cache.nextSerial)
    : ((machine.step? ground tick).getD machine).Fresh (ledger.record ground machine tick moment)
        id decided after bound := by
  cases stepped : machine.step? ground tick with
  | none =>
      rw [stepped] at minds
      rw [Ledger.record_of_held moment stepped]
      exact ⟨fresh.covers, fun works => minds.stays works (fresh.since works), fresh.rests⟩
  | some next =>
      rw [stepped] at minds
      exact fresh.step minds stepped numbered

end Step

end Machine

end Lifecycle.Concurrent
