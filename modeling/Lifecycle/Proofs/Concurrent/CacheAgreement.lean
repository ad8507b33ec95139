import Lifecycle.Proofs.Concurrent.Renewal
import Lifecycle.Proofs.Concurrent.TwoTables

/-! What the two tables of a cache say of one class while calls go on, and when none is under way.
Calls that remove entries do so without the lock of the class, unless they evict a class that has
one; so a call may put in a listener and set the trigger while another has removed one entry and not
the other, or the other way round, and then the tables disagree for good.
-/

namespace Lifecycle

/-- A table that has an entry for every class of another has no fewer entries. -/
theorem Table.size_le_size {α β : Type} {table : Table α} {other : Table β}
    (covers : ∀ id, (table.get? id).isSome → (other.get? id).isSome)
    : table.size ≤ other.size := by
  rw [← Table.length_ids, ← Table.length_ids]
  refine (List.subperm_of_subset table.nodup_ids (fun id member => ?_)).length_le
  rw [Table.mem_ids_iff] at member ⊢
  exact covers id member

namespace Concurrent

-----------------------------------------------------------------------------------------
-- Evictions that hold the lock
-----------------------------------------------------------------------------------------

/-- What an eviction of a class that holds the lock of the class has done by the time it comes to a
point.
-/
def EvictPoint.Rids (shared : Shared) (id : TypeId) : EvictPoint → Prop
  | .dropTrigger (some _) _ => shared.cache.listeners.get? id = none
  | .release _ _ =>
      shared.cache.listeners.get? id = none ∧ shared.cache.triggers.get? id = none
  | _ => True

section Evictions

variable {tick : Tick} {key : ClassKey} {shared reached : Shared} {point : EvictPoint}

theorem EvictPoint.Goes.rids {progress : Progress EvictPoint} {later : EvictPoint}
    (goes : point.Goes tick key shared reached progress) (rids : point.Rids shared key.id)
    (leads : progress.next? = some later)
    : later.Rids reached key.id := by
  cases goes with
  | finds | misses | acquires =>
      cases leads
      trivial
  | dropsListener held =>
      cases leads
      cases held with
      | none => trivial
      | some lock => exact (Table.get?_erase ..).trans (if_pos rfl)
  | dropsTrigger lock dropped =>
      cases leads
      exact ⟨rids, (Table.get?_erase ..).trans (if_pos rfl)⟩
  | finishes | returns => cases leads

/-- What is gone stays so while others do no more than make the cache forget the class. -/
theorem EvictPoint.Rids.mono {id : TypeId} (rids : point.Rids shared id)
    (forgets : ∀ lock, point.held? = some lock → shared.Forgets reached id)
    : point.Rids reached id := by
  match point, rids with
  | .lookLock, _ | .acquire _, _ | .dropListener _, _ | .dropTrigger none _, _ => trivial
  | .dropTrigger (some lock) _, absent => exact (forgets lock rfl).absent absent
  | .release lock _, ⟨absent, unset⟩ =>
      have forgets := forgets lock rfl
      refine ⟨forgets.absent absent, ?_⟩
      rcases forgets.triggers with same | lost
      · exact same.trans unset
      · exact lost

end Evictions

namespace Machine

variable {ground : Ground} {tick : Tick} {machine next : Machine} {id : TypeId}

/-- Every eviction that holds the lock of its class has rid the class of what it has come past. -/
def Rids (machine : Machine) : Prop :=
  ∀ thread key point,
    machine.activity? thread = some (.evict key point) → point.Rids machine.shared key.id

/-- Nobody is at work on the class meanwhile, so nobody puts anything in again. -/
theorem Rids.move (rids : machine.Rids) (ordered : machine.Ordered)
    (moved : Moves ground tick machine next)
    : next.Rids := by
  rcases moved.view with ⟨idle, same, request, view, -⟩
    | ⟨activity, progress, busy, goes, view, -⟩
  · intro thread key point under
    rw [view] at under
    rw [same]
    split at under
    · cases request with
      | evict key =>
          cases under
          trivial
      | find | clear => cases under
    · exact rids thread key point under
  · intro thread key point under
    rw [view] at under
    split at under
    · cases goes with
      | evict goes =>
          rw [Progress.next?_map] at under
          obtain ⟨later, leads, same⟩ := Option.map_eq_some_iff.mp under
          cases same
          exact goes.rids (rids _ _ _ busy) leads
      | find | clear =>
          rw [Progress.next?_map] at under
          obtain ⟨_, _, same⟩ := Option.map_eq_some_iff.mp under
          cases same
    · refine (rids _ _ _ under).mono (fun lock held => goes.forgets (fun works => ?_))
      exact ordered.not_resolving under held tick.thread ⟨activity, busy, works⟩

theorem Rids.run (requests : List (List Request)) (schedule : List Tick)
    : ((Machine.initial requests).run ground schedule).Rids := by
  refine run_induction Rids ?_
    (fun before _ _ rids _ moved => rids.move (.run requests before) moved)
  intro thread key point under
  rw [activity?_initial] at under
  cases under

-----------------------------------------------------------------------------------------
-- What every schedule comes to
-----------------------------------------------------------------------------------------

/-- A schedule from a time at which the tables agree on a class and nobody is half done with it, in
which no call takes both its steps on the entries of the class between the two of another, one that
puts in a listener and one that drops it.
-/
structure Apart (ground : Ground) (start : Machine) (schedule : List Tick) (id : TypeId)
    : Prop where
  idle : ∀ thread, start.phase id thread = .idle
  agree
    : (start.shared.cache.listeners.get? id).isSome
      ↔ start.shared.cache.triggers.get? id = some true
  removals : ¬ Encloses (start.course ground schedule) schedule.length id .removing .writing
  writes : ¬ Encloses (start.course ground schedule) schedule.length id .writing .removing

/-- At the beginning nobody is half done, and there are no entries to disagree. -/
theorem Apart.initial {requests : List (List Request)} {schedule : List Tick}
    (removals
      : ¬ Encloses ((Machine.initial requests).course ground schedule) schedule.length id .removing
          .writing)
    (writes
      : ¬ Encloses ((Machine.initial requests).course ground schedule) schedule.length id .writing
          .removing)
    : Apart ground (.initial requests) schedule id where
  idle thread := by
    rw [phase, activity?_initial]
    rfl
  agree := ⟨fun present => (nomatch present), fun flag => (nomatch flag)⟩
  removals := removals
  writes := writes

section Schedules

variable {requests : List (List Request)} {earlier schedule : List Tick}

/-- What holds after every schedule holds in the course of one that comes after another. -/
theorem course_run (kept : Machine → Prop)
    (holds : ∀ schedule, kept ((Machine.initial requests).run ground schedule)) (ticks : Nat)
    : kept (((Machine.initial requests).run ground earlier).course ground schedule ticks) := by
  rw [course, ← run_append]
  exact holds _

variable (apart : Apart ground ((Machine.initial requests).run ground earlier) schedule id)

include apart

/-- Every schedule is a course of turns. -/
theorem Apart.proceeds
    : Proceeds (((Machine.initial requests).run ground earlier).course ground schedule)
        schedule.length id where
  start := apart.idle
  turns ticks inside := by
    refine ⟨schedule[ticks].thread, ?_⟩
    have sound
        : (((Machine.initial requests).run ground earlier).course ground schedule ticks).Sound :=
      course_run Sound (fun _ => .run requests _) ticks
    rw [course] at sound
    rw [course, course, List.take_succ_eq_append_getElem inside, run_append, run_cons]
    generalize ((Machine.initial requests).run ground earlier).run ground (schedule.take ticks)
      = machine at sound
    cases stepped : machine.step? ground schedule[ticks] with
    | none => exact .refl _ id _
    | some next => exact (moves_of_step? stepped).turns sound id
  ordered := course_run Ordered (fun _ => .run requests _)
  removals := apart.removals
  writes := apart.writes

/-- The tables agree on the class at all times, as far as they can while calls go on. -/
theorem Apart.agrees {ticks : Nat} (inside : ticks ≤ schedule.length)
    : Agrees (((Machine.initial requests).run ground earlier).course ground schedule) id ticks := by
  have proceeds := apart.proceeds
  induction ticks with
  | zero => exact .start proceeds apart.agree
  | succ ticks ih =>
      obtain ⟨own, turns⟩ := proceeds.turns ticks inside
      exact (ih (Nat.le_of_succ_le inside)).step proceeds inside turns

end Schedules

/-- Nobody is half done with anything while no call is under way. -/
theorem phase_of_isQuiet (quiet : machine.isQuiet = true) (id : TypeId) (thread : ThreadId)
    : machine.phase id thread = .idle := by
  have none : machine.activity? thread = none := by
    cases found : machine.threads[thread]? with
    | none => simp [activity?, found]
    | some own =>
        have free := List.all_eq_true.mp quiet own (List.mem_of_getElem? found)
        simpa [activity?, found] using free
  rw [phase, none]
  rfl

theorem Agrees.iff_of_isQuiet {course : Nat → Machine} {ticks : Nat}
    (agrees : Agrees course id ticks) (quiet : (course ticks).isQuiet = true)
    : ((course ticks).shared.cache.listeners.get? id).isSome
      ↔ (course ticks).shared.cache.triggers.get? id = some true := by
  have idle := phase_of_isQuiet quiet id
  refine agrees.settled (fun thread clears => ?_) (fun thread writing => ?_)
  · cases (idle thread).symm.trans clears.1
  · cases (idle thread).symm.trans writing

/-- A listener that is cached is one that the trigger tells of, or is about to. -/
theorem Agrees.of_isSome {course : Nat → Machine} {ticks : Nat}
    (agrees : Agrees course id ticks)
    (present : ((course ticks).shared.cache.listeners.get? id).isSome)
    : (course ticks).shared.cache.triggers.get? id = some true
      ∨ ∃ thread, (course ticks).phase id thread = .writing := by
  have none (thread : ThreadId) : ¬ Clears course id ticks thread := by
    intro clears
    rw [agrees.cleared thread clears] at present
    cases present
  by_cases writing : ∃ thread, (course ticks).phase id thread = .writing
  · exact Or.inr writing
  · exact Or.inl
      ((agrees.settled none (fun thread now => writing ⟨thread, now⟩)).mp present)

/-- What the two tables say of a class, whatever calls interleave and whatever the mapping says. At
no time is there a listener while the trigger forbids one. From a time on at which the tables agree
on the class and nobody is half done with it, as at the beginning, and unless some call then takes
both its steps on the entries of the class between the two of another, one that puts in a listener
and one that drops it, a listener that is there is one that the trigger tells of, or that the call
that has put it in is about to tell of; and when no call is under way there is a listener if and
only if the trigger says so. If that holds for all classes there are no more listeners than classes.
And an eviction that holds the lock of its class overlaps with no such call, and leaves neither
entry.
-/
theorem tables_agree (ground : Ground) (requests : List (List Request))
    (earlier schedule : List Tick)
    : let start := (Machine.initial requests).run ground earlier
      let course := start.course ground schedule
      let machine := start.run ground schedule
      (∀ ticks id,
        (course ticks).shared.cache.triggers.get? id = some false
        → (course ticks).shared.cache.listeners.get? id = none)
      ∧ (∀ id,
        Apart ground start schedule id
        → ∀ ticks,
            ticks ≤ schedule.length
            → ((course ticks).shared.cache.listeners.get? id).isSome
            → (course ticks).shared.cache.triggers.get? id = some true
              ∨ ∃ thread, (course ticks).phase id thread = .writing)
      ∧ (machine.isQuiet = true
        → ∀ id,
            Apart ground start schedule id
            → ((machine.shared.cache.listeners.get? id).isSome
              ↔ machine.shared.cache.triggers.get? id = some true))
      ∧ (machine.isQuiet = true
        → (∀ id, Apart ground start schedule id)
        → machine.shared.cache.stats.cachedListeners ≤ machine.shared.cache.stats.cachedClasses)
      ∧ ∀ ticks thread key point lock,
          (course ticks).activity? thread = some (.evict key point)
          → point.held? = some lock
          → (∀ other, (course ticks).phase key.id other ≠ .writing)
            ∧ ∀ dropped,
                point = .release lock dropped
                → (course ticks).shared.cache.listeners.get? key.id = none
                  ∧ (course ticks).shared.cache.triggers.get? key.id = none := by
  intro start course machine
  have ends : course schedule.length = machine :=
    congrArg (start.run ground) (List.take_length ..)
  have settled (quiet : machine.isQuiet = true) {id : TypeId}
      (apart : Apart ground start schedule id)
      : (machine.shared.cache.listeners.get? id).isSome
        ↔ machine.shared.cache.triggers.get? id = some true := by
    rw [← ends] at quiet ⊢
    exact (apart.agrees (Nat.le_refl _)).iff_of_isQuiet quiet
  refine ⟨?_, ?_, fun quiet id => settled quiet, ?_, ?_⟩
  · intro ticks id forbidden
    have sound : (course ticks).Sound := course_run Sound (fun _ => .run requests _) ticks
    rw [← Option.not_isSome_iff_eq_none]
    exact fun present => sound.coherent id present forbidden
  · intro id apart ticks inside present
    exact (apart.agrees inside).of_isSome present
  · intro quiet apart
    refine Table.size_le_size (fun id present => ?_)
    rw [(settled quiet (apart id)).mp present]
    rfl
  · intro ticks thread key point lock under held
    have ordered : (course ticks).Ordered := course_run Ordered (fun _ => .run requests _) ticks
    have rids : (course ticks).Rids := course_run Rids (fun _ => .run requests _) ticks
    refine ⟨fun other writing => ?_, ?_⟩
    · exact ordered.not_resolving under held other (resolving_of_writing writing)
    · rintro dropped rfl
      exact rids thread key _ under

/-- A thread that has no calls to make is half done with nothing. -/
theorem phase_of_length_le {requests : List (List Request)} {thread : ThreadId}
    (beyond : requests.length ≤ thread) (schedule : List Tick) (id : TypeId)
    : ((Machine.initial requests).run ground schedule).phase id thread = .idle := by
  have calls
      : ((Machine.initial requests).run ground schedule).threads.length = requests.length := by
    have same :=
      congrArg List.length ((calls_run ground _ schedule).trans (calls_initial requests))
    rwa [List.length_map] at same
  rw [phase, activity?, List.getElem?_eq_none (calls.trans_le beyond)]
  rfl

/-- Where the one begins to remove the entries at the last tick at which the other is writing them,
neither is half done all the while that the other does both its steps.
-/
theorem not_encloses_of_meet {course : Nat → Machine} {length meet : Nat}
    {writer remover : ThreadId}
    (writing
      : ∀ ticks,
          ticks ≤ length
          → ∀ thread, (course ticks).phase id thread = .writing → thread = writer ∧ ticks ≤ meet)
    (removing
      : ∀ ticks,
          ticks ≤ length
          → ∀ thread, (course ticks).phase id thread = .removing → thread = remover ∧ meet ≤ ticks)
    (both
      : (course meet).phase id writer = .writing ∧ (course meet).phase id remover = .removing)
    : ¬ Encloses course length id .removing .writing
      ∧ ¬ Encloses course length id .writing .removing := by
  constructor
  · rintro ⟨thread, other, first, middle, last, earlier, later, upTo, outer, before, half, -⟩
    obtain ⟨-, starts⟩ :=
      removing first (by omega) thread (outer first (Nat.le_refl _) (by omega))
    obtain ⟨rfl, ends⟩ := writing middle (by omega) other half
    obtain rfl : first = meet := by omega
    exact before both.1
  · rintro ⟨thread, other, first, middle, last, earlier, later, upTo, outer, -, half, after⟩
    obtain ⟨-, ends⟩ := writing last upTo thread (outer last (by omega) (Nat.le_refl _))
    obtain ⟨rfl, starts⟩ := removing middle (by omega) other half
    obtain rfl : last = meet := by omega
    exact after both.2

/-- A datastore of its own, and a clock that stands still. -/
def plain : Ground := ⟨⟨⟨0, "main"⟩, default⟩, .fixed 0 0⟩

/-- A step of a thread under a mapping that maps every class. -/
def going (sweep : Option TypeId) (thread : ThreadId) : Tick := ⟨thread, fun _ => .mapped, sweep⟩

/-- A thread that asks for a class, beside one that does something else. -/
def beside (others : List Request) : List (List Request) :=
  [[.find ⟨⟨7, "shop::Order"⟩, false⟩ none], others]

/-- The tables may disagree when no call is under way, though no check has panicked. If the entries
are swept between the two steps by which they are put in, a trigger is left without a listener. If
they are put in between the two steps of an eviction that has found no lock, a listener is left
without a trigger: it is not counted among the classes, and the eviction answers that it has dropped
something.
-/
theorem tables_disagree
    : let swept :=
        (initial (beside [.clear])).run plain
          ((List.replicate 10 0).map (going none) ++ [going none 1, going (some 7) 1]
            ++ [1, 1, 0, 0].map (going none))
      let evicted :=
        (initial (beside [.evict ⟨7, "shop::Order"⟩])).run plain
          (([1, 1, 1] ++ List.replicate 12 0 ++ [1]).map (going none))
      (swept.isQuiet = true
        ∧ (swept.shared.cache.listeners.get? 7).isSome = false
        ∧ swept.shared.cache.triggers.get? 7 = some true)
      ∧ evicted.isQuiet = true
      ∧ (evicted.shared.cache.listeners.get? 7).isSome = true
      ∧ evicted.shared.cache.triggers.get? 7 = none
      ∧ ¬ evicted.shared.cache.stats.cachedListeners ≤ evicted.shared.cache.stats.cachedClasses
      ∧ evicted.reply? 1 0 = some (.evict ⟨7, "shop::Order"⟩, .evicted true) := by
  refine ⟨by decide +kernel, by decide +kernel, by decide +kernel, by decide +kernel,
    by decide +kernel, by cbv⟩

/-- The entries are swept while they are put in. The sweep begins at the last tick at which there is
only the listener, and ends after the trigger is set.
-/
def overlapping : List Tick :=
  (List.replicate 10 0).map (going none) ++ [going none 1, going (some 7) 1]
    ++ [0, 0, 1].map (going none) ++ [going (some 7) 1, going none 1]

/-- Two calls that overlap in this way do no harm. -/
theorem tables_agree_overlapping
    : ((initial (beside [.clear])).course plain overlapping 12).phase 7 0 = .writing
      ∧ ((initial (beside [.clear])).course plain overlapping 12).phase 7 1 = .removing
      ∧ ((initial (beside [.clear])).run plain overlapping).isQuiet = true
      ∧ ((((initial (beside [.clear])).run plain overlapping).shared.cache.listeners.get? 7).isSome
        ↔ ((initial (beside [.clear])).run plain overlapping).shared.cache.triggers.get? 7
          = some true) := by
  have both
      : ((initial (beside [.clear])).course plain overlapping 12).phase 7 0 = .writing
        ∧ ((initial (beside [.clear])).course plain overlapping 12).phase 7 1 = .removing := by
    decide +kernel
  have quiet : ((initial (beside [.clear])).run plain overlapping).isQuiet = true := by
    decide +kernel
  have halves
      : ∀ ticks < 18, ∀ thread < 2,
          (((initial (beside [.clear])).course plain overlapping ticks).phase 7 thread = .writing
            → thread = 0 ∧ ticks ≤ 12)
          ∧ (((initial (beside [.clear])).course plain overlapping ticks).phase 7 thread = .removing
            → thread = 1 ∧ 12 ≤ ticks) := by
    decide +kernel
  have nobody (ticks thread : Nat) (beyond : ¬ thread < 2)
      : ((initial (beside [.clear])).course plain overlapping ticks).phase 7 thread = .idle :=
    phase_of_length_le (Nat.le_of_not_lt beyond) _ 7
  have apart : Apart plain (initial (beside [.clear])) overlapping 7 := by
    obtain ⟨removals, writes⟩
        : ¬ Encloses ((initial (beside [.clear])).course plain overlapping) overlapping.length 7
              .removing .writing
          ∧ ¬ Encloses ((initial (beside [.clear])).course plain overlapping) overlapping.length 7
              .writing .removing := by
      refine not_encloses_of_meet (fun ticks upTo thread half => ?_)
        (fun ticks upTo thread half => ?_) both
      · by_cases known : thread < 2
        · exact (halves ticks (Nat.lt_succ_of_le upTo) thread known).1 half
        · cases (nobody ticks thread known).symm.trans half
      · by_cases known : thread < 2
        · exact (halves ticks (Nat.lt_succ_of_le upTo) thread known).2 half
        · cases (nobody ticks thread known).symm.trans half
    exact .initial removals writes
  exact ⟨both.1, both.2, quiet,
    (tables_agree plain (beside [.clear]) [] overlapping).2.2.1 quiet 7 apart⟩

end Machine

end Concurrent

end Lifecycle
