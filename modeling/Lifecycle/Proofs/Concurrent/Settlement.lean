import Lifecycle.Proofs.Concurrent.Standing

/-! Many threads that ask for listeners at the same time, while nothing is evicted and the mapping
always says the same. Whatever the schedule, every class is resolved once, and all calls for it are
answered alike.
-/

namespace Lifecycle.Concurrent

/-- The step of a thread under a mapping that always says the same. -/
def Tick.steady (mapped : TypeId → Bool) (thread : ThreadId) : Tick :=
  ⟨thread, fun cls => if mapped cls.id then .mapped else .unmapped, none⟩

theorem Tick.follows_steady (mapped : TypeId → Bool) (thread : ThreadId)
    : (Tick.steady mapped thread).Follows mapped :=
  fun _ => rfl

/-- Threads that ask for the listeners of classes, for events that do not say where they come from.
-/
def Machine.finding (asked : List (List EntityClass)) : Machine :=
  .initial (asked.map (fun classes => classes.map (Request.find · none)))

variable {ground : Ground} {tick : Tick} {shared reached : Shared} {mapped : TypeId → Bool}
  {asked : List (List EntityClass)}

namespace Machine

variable {machine next : Machine}

/-- Every call under way asks for the listener of one of the classes. -/
def Finds (machine : Machine) (classes : List EntityClass) : Prop :=
  ∀ thread activity,
    machine.activity? thread = some activity
    → ∃ cls ∈ classes, ∃ point, activity = .find cls none point

/-- Threads that begin by asking for listeners never do anything else. -/
theorem Finds.run (asked : List (List EntityClass)) (schedule : List Tick)
    : ((Machine.finding asked).run ground schedule).Finds asked.flatten := by
  intro thread activity under
  obtain ⟨requests, listed, member⟩ := List.mem_flatten.mp (request_mem_of_activity? under)
  obtain ⟨classes, mine, rfl⟩ := List.mem_map.mp listed
  obtain ⟨cls, among, same⟩ := List.mem_map.mp member
  refine ⟨cls, List.mem_flatten.mpr ⟨classes, mine, among⟩, ?_⟩
  cases activity with
  | find cls factory point =>
      cases same
      exact ⟨point, rfl⟩
  | evict | clear => cases same

-----------------------------------------------------------------------------------------
-- The standing of every class
-----------------------------------------------------------------------------------------

/-- Every class stands as told: what is shared agrees with it, every call under way finds what it
expects, and every answer given so far may be given. A class is open only while a call is at work
on it, and fresh unless it was asked for.
-/
structure Stands (mapped : TypeId → Bool) (asked : List EntityClass) (machine : Machine)
    (standing : TypeId → Standing) : Prop where
  shared : ∀ id, machine.shared.Stands id (standing id)
  truthful : ∀ id, (standing id).Truthful (mapped id)
  expects
    : ∀ {thread activity},
        machine.activity? thread = some activity
        → activity.Expects standing mapped
  resolving : ∀ {id}, (standing id).IsOpen → ∃ thread, machine.Resolving thread id
  asked : ∀ {id}, standing id ≠ .fresh → ∃ cls ∈ asked, cls.id = id
  granted
    : ∀ {cls factory reply},
        (.find cls factory, reply) ∈ machine.replies
        → ∃ answer, reply = .found answer ∧ (standing cls.id).Grants answer

theorem Stands.initial
    : (Machine.finding asked).Stands mapped asked.flatten (fun _ => .fresh) where
  shared _ := ⟨rfl, rfl, rfl⟩
  truthful _ := trivial
  expects under := by
    rw [finding, activity?_initial] at under
    cases under
  resolving opened := opened.elim
  asked begun := absurd rfl begun
  granted member := by
    obtain ⟨thread, among, replied⟩ := List.mem_flatMap.mp member
    obtain ⟨requests, -, rfl⟩ := List.mem_map.mp among
    cases replied

/-- The class of a call that is about to take a lock is not open: the call that is at work on it
would hold the lock.
-/
theorem Stands.closed_of_free {standing : TypeId → Standing} {classes : List EntityClass}
    (stands : machine.Stands mapped classes standing) (ordered : machine.Ordered)
    {thread : ThreadId} {cls : EntityClass} {factory : Option SessionFactory} {lock : LockId}
    (under : machine.activity? thread = some (.find cls factory (.acquire lock)))
    (free : machine.shared.cache.owner? lock = none)
    : ¬ (standing cls.id).IsOpen := by
  intro opened
  obtain ⟨other, activity, busy, works⟩ := stands.resolving opened
  obtain ⟨cls', factory', held, stage, rfl, same⟩ := works.eq_inside
  have known := ordered.knows under lock rfl
  have known' := ordered.knows busy held rfl
  rw [same, known] at known'
  obtain rfl := Option.some.inj known'
  have owned := (ordered.owner_iff lock other).mpr (by rw [busy]; rfl)
  exact nomatch free.symm.trans owned

/-- Every move takes the classes on, none of them back. -/
theorem Stands.move {standing : TypeId → Standing} {classes : List EntityClass}
    (stands : machine.Stands mapped classes standing) (ordered : machine.Ordered)
    (follows : tick.Follows mapped) (finds : machine.Finds classes)
    (moved : Moves ground tick machine next)
    : ∃ after, next.Stands mapped classes after := by
  rcases moved.view with ⟨idle, same, request, view, replies⟩
    | ⟨activity, progress, busy, goes, view, replies⟩
  · refine ⟨standing, ?_, stands.truthful, ?_, ?_, stands.asked, ?_⟩
    · exact fun id => same ▸ stands.shared id
    · intro thread activity under
      rw [view] at under
      split at under
      · cases under
        cases request <;> trivial
      · exact stands.expects under
    · intro id opened
      obtain ⟨thread, activity, under, works⟩ := stands.resolving opened
      have apart : thread ≠ tick.thread := by
        rintro rfl
        exact nomatch idle.symm.trans under
      exact ⟨thread, activity, by rw [view, if_neg apart, under], works⟩
    · exact fun member => stands.granted (replies _ member)
  · obtain ⟨cls, member, point, rfl⟩ := finds _ _ busy
    obtain ⟨after, leads, others, shared, truthful, satisfies⟩ :=
      goes.advances follows stands.shared stands.truthful (stands.expects busy)
        (fun lock waits free => stands.closed_of_free ordered (waits ▸ busy) free)
    refine ⟨after, shared, truthful, ?_, ?_, ?_, ?_⟩
    · intro thread activity under
      rw [view] at under
      split at under
      · cases progress with
        | next reached =>
            cases under
            exact satisfies.1
        | finish reply => cases under
      · rename_i apart
        refine (stands.expects under).leads leads (fun id works => others id (fun own => apart ?_))
        exact ordered.resolving_unique ⟨_, under, works⟩ ⟨_, busy, own⟩
    · intro id opened
      by_cases works : (Activity.find cls none point).WorksOn id
      · cases progress with
        | next reached =>
            exact ⟨tick.thread, reached, by rw [view, if_pos rfl]; rfl, satisfies.2 id works⟩
        | finish reply => exact absurd opened (satisfies.2 id works)
      · rw [others id works] at opened
        obtain ⟨thread, activity, under, own⟩ := stands.resolving opened
        have apart : thread ≠ tick.thread := by
          rintro rfl
          cases busy.symm.trans under
          exact works own
        exact ⟨thread, activity, by rw [view, if_neg apart, under], own⟩
    · intro id begun
      by_cases works : (Activity.find cls none point).WorksOn id
      · obtain ⟨_, _, _, _, same, rfl⟩ := works.eq_inside
        cases same
        exact ⟨cls, member, rfl⟩
      · exact stands.asked (others id works ▸ begun)
    · intro cls' factory reply replied
      rcases replies _ replied with old | ⟨_, rfl, same⟩
      · obtain ⟨answer, rfl, grants⟩ := stands.granted old
        exact ⟨answer, rfl, grants.leads (leads cls'.id)⟩
      · cases same
        exact satisfies.1

/-- After every schedule there is a standing for every class. -/
theorem Stands.run {schedule : List Tick} (follows : ∀ tick ∈ schedule, tick.Follows mapped)
    : ∃ standing,
        ((Machine.finding asked).run ground schedule).Stands mapped asked.flatten standing :=
  run_induction
    (fun machine => ∃ standing, machine.Stands mapped asked.flatten standing)
    ⟨_, .initial⟩
    (fun before tick _ ⟨_, stands⟩ member moved =>
      stands.move (.run _ before) (follows tick member) (.run asked before) moved)

end Machine

-----------------------------------------------------------------------------------------
-- What the counters count
-----------------------------------------------------------------------------------------

/-- As long as nothing is evicted a listener that is created stays in the cache. -/
theorem Activity.Goes.created_eq_size {cls : EntityClass} {factory : Option SessionFactory}
    {point : FindPoint} {progress : Progress Activity}
    (goes : (Activity.find cls factory point).Goes ground tick shared reached progress)
    (relies : (Activity.find cls factory point).Relies shared)
    (same : shared.cache.created = shared.cache.listeners.size)
    : reached.cache.created = reached.cache.listeners.size := by
  cases goes with
  | find goes =>
      cases goes with
      | hits | misses | declines | proceeds | counts | acquires => exact same
      | ensures =>
          rw [Shared.mapCache, Cache.ensureLock_frame]
          exact same
      | inside goes =>
          cases goes with
          | inserts vacant =>
              have grown := Table.size_insert_of_vacant _ (ground.build shared cls) vacant
              exact (congrArg (· + 1) same).trans grown.symm
          | relooks | misses | declines | proceeds | counts | disowns | maps | unmaps | panics
          | yields | flags | returns | unwinds => exact same

/-- The next step of the call is to ask the mapping. -/
def Activity.consulting : Activity → Bool
  | .find _ _ (.inside _ .consult) => true
  | _ => false

/-- One, if the thread is in a call whose next step is to ask the mapping. -/
def Thread.consulting (thread : Thread) : Nat := (thread.current.any Activity.consulting).toNat

/-- A check that is counted is followed by a question to the mapping, and the other way round. -/
theorem Activity.Goes.checks_eq {cls : EntityClass} {point : FindPoint}
    {progress : Progress Activity}
    (goes : (Activity.find cls none point).Goes ground tick shared reached progress)
    : reached.cache.checks + shared.consulted.length
        + (Activity.find cls none point).consulting.toNat
      = shared.cache.checks + reached.consulted.length
        + (progress.next?.any Activity.consulting).toNat := by
  cases goes with
  | find goes =>
      cases goes with
      | hits | misses | declines | proceeds | counts | acquires => rfl
      | ensures =>
          rw [Shared.mapCache, Cache.ensureLock_frame]
          rfl
      | inside goes =>
          cases goes with
          | disowns foreign => simp [Policy.owns] at foreign
          | counts => exact Nat.add_right_comm shared.cache.checks 1 shared.consulted.length
          | relooks | misses | declines | proceeds | maps | unmaps | panics | inserts | yields
          | flags | returns | unwinds => rfl

namespace Machine

variable {machine next : Machine}

def consulting (machine : Machine) : Nat := total Thread.consulting machine.threads

/-- While no call is under way none is about to ask the mapping. -/
theorem consulting_of_quiet (quiet : ∀ thread ∈ machine.threads, thread.current = none)
    : machine.consulting = 0 :=
  total_eq_zero (fun thread member => by simp [Thread.consulting, quiet thread member])

/-- Every listener that was created is in the cache, and every check that was counted has led to a
question or is about to.
-/
structure Counted (machine : Machine) : Prop where
  created : machine.shared.cache.created = machine.shared.cache.listeners.size
  checks : machine.shared.cache.checks = machine.shared.consulted.length + machine.consulting

/-- A move changes whether its own thread is about to ask the mapping, and no other. -/
theorem Moves.consulting_eq (moved : Moves ground tick machine next)
    : next.consulting + ((machine.activity? tick.thread).any Activity.consulting).toNat
      = machine.consulting + ((next.activity? tick.thread).any Activity.consulting).toNat := by
  cases moved with
  | begins found | acts found =>
      rw [activity?_set found, if_pos rfl, activity?, found]
      exact total_set Thread.consulting _ found

theorem Counted.initial : (Machine.finding asked).Counted where
  created := rfl
  checks := by
    have quiet : (Machine.finding asked).consulting = 0 := by
      refine consulting_of_quiet (fun thread member => ?_)
      obtain ⟨_, _, rfl⟩ := List.mem_map.mp member
      rfl
    rw [quiet]
    rfl

theorem Counted.move (counted : machine.Counted) (sound : machine.Sound)
    (finds : machine.Finds asked.flatten) (moved : Moves ground tick machine next)
    : next.Counted := by
  have consulting := moved.consulting_eq
  rcases moved.view with ⟨idle, same, request, view, -⟩
    | ⟨activity, progress, busy, goes, view, -⟩
  · rw [idle, view, if_pos rfl] at consulting
    have begins : request.begin.consulting = false := by cases request <;> rfl
    simp only [Option.any_none, Option.any_some, begins, Nat.add_right_cancel_iff] at consulting
    exact ⟨same ▸ counted.created, by rw [same, consulting, counted.checks]⟩
  · obtain ⟨cls, -, point, rfl⟩ := finds _ _ busy
    refine ⟨goes.created_eq_size (sound.relies busy) counted.created, ?_⟩
    have checks := goes.checks_eq
    have before := counted.checks
    rw [busy, view, if_pos rfl, Option.any_some] at consulting
    omega

/-- The counters are right after every schedule. -/
theorem Counted.run (schedule : List Tick)
    : ((Machine.finding asked).run ground schedule).Counted :=
  run_induction Counted .initial
    (fun before _ _ counted _ moved => counted.move (.run _ before) (.run asked before) moved)

end Machine

end Lifecycle.Concurrent
