import Lifecycle.Proofs.Concurrent.Halves

/-! When the two tables of a cache agree about a class. Each of the calls that change both entries
of a class does so in two steps. Two such calls may overlap and do no harm, as long as neither takes
both its steps between the two of the other.
-/

namespace Lifecycle.Concurrent.Machine

variable {ground : Ground}

-----------------------------------------------------------------------------------------
-- The course of a schedule
-----------------------------------------------------------------------------------------

/-- The machine after each number of ticks of a schedule. -/
def course (ground : Ground) (machine : Machine) (schedule : List Tick) (ticks : Nat) : Machine :=
  machine.run ground (schedule.take ticks)

/-- In the first so many ticks of a course, some thread comes into the inner phase and out of it
while another is in the outer phase all the time.
-/
def Encloses (course : Nat → Machine) (length : Nat) (id : TypeId) (outer inner : Phase) : Prop :=
  ∃ thread other first middle last,
    first ≤ middle
    ∧ middle ≤ last
    ∧ last ≤ length
    ∧ (∀ ticks, first ≤ ticks → ticks ≤ last → (course ticks).phase id thread = outer)
    ∧ (course first).phase id other ≠ inner
    ∧ (course middle).phase id other = inner
    ∧ (course last).phase id other ≠ inner

/-- A course as far as it concerns a class: no thread is half done at first, each tick is a turn of
one thread, and the locks are in order. No call removes the entries of the class around both halves
of another's writing them, or writes them around both halves of another's removing them.
-/
structure Proceeds (course : Nat → Machine) (length : Nat) (id : TypeId) : Prop where
  start : ∀ thread, (course 0).phase id thread = .idle
  turns : ∀ ticks, ticks < length → ∃ own, (course ticks).Turns (course (ticks + 1)) id own
  ordered : ∀ ticks, (course ticks).Ordered
  removals : ¬ Encloses course length id .removing .writing
  writes : ¬ Encloses course length id .writing .removing

variable {course : Nat → Machine} {length ticks : Nat} {id : TypeId} {thread own : ThreadId}

/-- The thread came to remove the entries of the class while the other has been writing them. -/
def Enters (course : Nat → Machine) (id : TypeId) (ticks : Nat) (thread other : ThreadId) : Prop :=
  ∃ since,
    since ≤ ticks
    ∧ (∀ between,
      since ≤ between → between ≤ ticks → (course between).phase id other = .writing)
    ∧ (course since).phase id thread ≠ .removing

/-- The thread is removing the entries of the class, and nobody has put in a listener since it
dropped the listener.
-/
def Clears (course : Nat → Machine) (id : TypeId) (ticks : Nat) (thread : ThreadId) : Prop :=
  (course ticks).phase id thread = .removing
  ∧ ∀ other, (course ticks).phase id other = .writing → Enters course id ticks thread other

theorem Enters.onward {other : ThreadId} (enters : Enters course id ticks thread other)
    (writing : (course (ticks + 1)).phase id other = .writing)
    : Enters course id (ticks + 1) thread other := by
  obtain ⟨since, before, throughout, elsewhere⟩ := enters
  refine ⟨since, Nat.le_succ_of_le before, ?_, elsewhere⟩
  intro between later upTo
  rcases Nat.le_succ_iff.mp upTo with earlier | rfl
  · exact throughout between later earlier
  · exact writing

theorem Enters.earlier {other : ThreadId} (enters : Enters course id (ticks + 1) thread other)
    (removing : (course (ticks + 1)).phase id thread = .removing)
    : Enters course id ticks thread other := by
  obtain ⟨since, before, throughout, elsewhere⟩ := enters
  rcases Nat.le_succ_iff.mp before with earlier | rfl
  · exact ⟨since, earlier, fun between later upTo => throughout between later (by omega),
      elsewhere⟩
  · exact absurd removing elsewhere

/-- Who clears the class has done so before, if it was removing and nobody has begun to write since.
-/
theorem Clears.earlier (clears : Clears course id (ticks + 1) thread)
    (removing : (course ticks).phase id thread = .removing)
    (writers
      : ∀ other,
          (course ticks).phase id other = .writing → (course (ticks + 1)).phase id other = .writing)
    : Clears course id ticks thread :=
  ⟨removing, fun other writing => (clears.2 other (writers other writing)).earlier clears.1⟩

theorem Clears.onward (clears : Clears course id ticks thread)
    (removing : (course (ticks + 1)).phase id thread = .removing)
    (writers
      : ∀ other,
          (course (ticks + 1)).phase id other = .writing → (course ticks).phase id other = .writing)
    : Clears course id (ticks + 1) thread :=
  ⟨removing, fun other writing => (clears.2 other (writers other writing)).onward writing⟩

/-- What is kept about a class in such a course: nobody who clears it has left a listener; and if
nobody does, there is a listener whenever somebody is writing, and otherwise if and only if the
trigger says so.
-/
structure Agrees (course : Nat → Machine) (id : TypeId) (ticks : Nat) : Prop where
  cleared
    : ∀ thread,
        Clears course id ticks thread
        → (course ticks).shared.cache.listeners.get? id = none
  written
    : (∀ thread, ¬ Clears course id ticks thread)
      → ∀ thread,
          (course ticks).phase id thread = .writing
          → ((course ticks).shared.cache.listeners.get? id).isSome
  settled
    : (∀ thread, ¬ Clears course id ticks thread)
      → (∀ thread, (course ticks).phase id thread ≠ .writing)
      → (((course ticks).shared.cache.listeners.get? id).isSome
        ↔ (course ticks).shared.cache.triggers.get? id = some true)

namespace Proceeds

/-- A thread that is writing has begun by a tick of its own. -/
theorem exists_onset (proceeds : Proceeds course length id) (inside : ticks ≤ length)
    (writing : (course ticks).phase id thread = .writing)
    : ∃ onset,
        onset < ticks
        ∧ (course onset).phase id thread ≠ .writing
        ∧ (∀ between,
          onset < between → between ≤ ticks → (course between).phase id thread = .writing)
        ∧ ∀ other,
            other ≠ thread
            → (course (onset + 1)).phase id other = (course onset).phase id other := by
  induction ticks with
  | zero =>
      rw [proceeds.start] at writing
      cases writing
  | succ ticks ih =>
      by_cases already : (course ticks).phase id thread = .writing
      · obtain ⟨onset, before, elsewhere, throughout, others⟩ := ih (by omega) already
        refine ⟨onset, by omega, elsewhere, ?_, others⟩
        intro between later upTo
        rcases Nat.le_succ_iff.mp upTo with earlier | rfl
        · exact throughout between later earlier
        · exact writing
      · obtain ⟨own, turns⟩ := proceeds.turns ticks (by omega)
        have mine : thread = own :=
          Decidable.byContradiction
            (fun apart => already ((turns.others thread apart).symm.trans writing))
        refine ⟨ticks, by omega, already, ?_, fun other apart => turns.others other (mine ▸ apart)⟩
        intro between later upTo
        obtain rfl : between = ticks + 1 := by omega
        exact writing

/-- Whoever is removing the entries when another has written them came to it while that was writing,
since it has not been at it all that time.
-/
theorem enters_of_flags (proceeds : Proceeds course length id) (inside : ticks < length)
    (turns : (course ticks).Turns (course (ticks + 1)) id own)
    (half : (course ticks).phase id own = .writing)
    (done : (course (ticks + 1)).phase id own = .idle)
    (removing : (course ticks).phase id thread = .removing)
    : Enters course id ticks thread own := by
  have apart : thread ≠ own := by
    rintro rfl
    cases half.symm.trans removing
  obtain ⟨onset, before, elsewhere, throughout, others⟩ :=
    proceeds.exists_onset (Nat.le_of_lt inside) half
  apply Classical.byContradiction
  intro outside
  have always (between : Nat) (later : onset < between) (upTo : between ≤ ticks)
      : (course between).phase id thread = .removing := by
    apply Decidable.byContradiction
    intro absent
    exact outside ⟨between, upTo,
      fun tick since upTo => throughout tick (by omega) upTo, absent⟩
  refine proceeds.removals
    ⟨thread, own, onset, ticks, ticks + 1, by omega, by omega, inside, ?_, elsewhere, half, ?_⟩
  · intro between later upTo
    rcases Nat.eq_or_lt_of_le later with rfl | after
    · exact (others thread apart).symm.trans (always (onset + 1) (by omega) before)
    · rcases Nat.le_succ_iff.mp upTo with earlier | rfl
      · exact always between after earlier
      · exact turns.after removing half nofun
  · rw [done]
    exact nofun

/-- Whoever has removed the entries has not come to it while another was writing them that still is.
-/
theorem not_enters_of_forgets (proceeds : Proceeds course length id) (inside : ticks < length)
    (turns : (course ticks).Turns (course (ticks + 1)) id own)
    (half : (course ticks).phase id own = .removing)
    (done : (course (ticks + 1)).phase id own = .idle)
    (writing : (course ticks).phase id thread = .writing)
    : ¬ Enters course id ticks own thread := by
  rintro ⟨since, before, throughout, elsewhere⟩
  refine proceeds.writes
    ⟨thread, own, since, ticks, ticks + 1, before, by omega, inside, ?_, elsewhere, half, ?_⟩
  · intro between later upTo
    rcases Nat.le_succ_iff.mp upTo with earlier | rfl
    · exact throughout between later earlier
    · exact turns.after writing half nofun
  · rw [done]
    exact nofun

end Proceeds

/-- While nobody is half done it is enough that there is a listener if and only if the trigger says
so.
-/
theorem Agrees.start (proceeds : Proceeds course length id)
    (agree
      : ((course 0).shared.cache.listeners.get? id).isSome
        ↔ (course 0).shared.cache.triggers.get? id = some true)
    : Agrees course id 0 := by
  refine ⟨fun thread clears => ?_, fun _ thread writing => ?_, fun _ _ => agree⟩
  · cases (proceeds.start thread).symm.trans clears.1
  · cases (proceeds.start thread).symm.trans writing

section Turns

variable (agrees : Agrees course id ticks) (proceeds : Proceeds course length id)
  (inside : ticks < length) (turns : (course ticks).Turns (course (ticks + 1)) id own)

include agrees

theorem Agrees.of_keeps (keeps : (course ticks).shared.Keeps (course (ticks + 1)).shared id)
    (phases
      : ∀ thread, (course (ticks + 1)).phase id thread = (course ticks).phase id thread)
    : Agrees course id (ticks + 1) := by
  have onward {thread : ThreadId} (clears : Clears course id ticks thread)
      : Clears course id (ticks + 1) thread :=
    clears.onward ((phases thread).trans clears.1)
      (fun other writing => (phases other).symm.trans writing)
  constructor
  · intro thread clears
    have earlier : Clears course id ticks thread :=
      clears.earlier ((phases thread).symm.trans clears.1)
        (fun other writing => (phases other).trans writing)
    exact keeps.listeners.trans (agrees.cleared thread earlier)
  · intro none thread writing
    rw [keeps.listeners]
    exact agrees.written (fun other clears => none other (onward clears)) thread
      ((phases thread).symm.trans writing)
  · intro none nobody
    rw [keeps.listeners, keeps.triggers]
    exact agrees.settled (fun other clears => none other (onward clears))
      (fun thread writing => nobody thread ((phases thread).trans writing))

include proceeds inside turns

/-- When the trigger is set, everybody who is removing the entries has dropped the listener since it
was put in.
-/
theorem Agrees.of_flags (half : (course ticks).phase id own = .writing)
    (done : (course (ticks + 1)).phase id own = .idle)
    (listeners
      : (course (ticks + 1)).shared.cache.listeners.get? id
        = (course ticks).shared.cache.listeners.get? id)
    (flag : (course (ticks + 1)).shared.cache.triggers.get? id = some true)
    : Agrees course id (ticks + 1) := by
  have alone {thread : ThreadId} (writing : (course ticks).phase id thread = .writing)
      : thread = own :=
    (proceeds.ordered ticks).resolving_unique (resolving_of_writing writing)
      (resolving_of_writing half)
  have nobody (thread : ThreadId) : (course (ticks + 1)).phase id thread ≠ .writing := by
    intro writing
    have already := turns.before writing done nofun
    obtain rfl := alone already
    cases done.symm.trans writing
  have clears {thread : ThreadId} (removing : (course ticks).phase id thread = .removing)
      : Clears course id ticks thread :=
    ⟨removing, fun other writing =>
      alone writing ▸ proceeds.enters_of_flags inside turns half done removing⟩
  constructor
  · intro thread now
    have already := turns.before now.1 done nofun
    exact listeners.trans (agrees.cleared thread (clears already))
  · exact fun _ thread writing => absurd writing (nobody thread)
  · intro none _
    have present : ((course ticks).shared.cache.listeners.get? id).isSome := by
      refine agrees.written (fun thread clears => none thread ?_) own half
      exact clears.onward (turns.after clears.1 half nofun)
        (fun other writing => absurd writing (nobody other))
    rw [listeners, flag]
    exact ⟨fun _ => rfl, fun _ => present⟩

/-- When the trigger is dropped, whoever is writing the entries put in the listener after the
listener was dropped.
-/
theorem Agrees.of_forgets (half : (course ticks).phase id own = .removing)
    (done : (course (ticks + 1)).phase id own = .idle)
    (listeners
      : (course (ticks + 1)).shared.cache.listeners.get? id
        = (course ticks).shared.cache.listeners.get? id)
    (unset : (course (ticks + 1)).shared.cache.triggers.get? id = none)
    : Agrees course id (ticks + 1) := by
  have writers {thread : ThreadId}
      : (course (ticks + 1)).phase id thread = .writing
        ↔ (course ticks).phase id thread = .writing := by
    constructor
    · exact fun writing => turns.before writing done nofun
    · exact fun writing => turns.after writing half nofun
  constructor
  · intro thread now
    have already := turns.before now.1 done nofun
    exact listeners.trans (agrees.cleared thread (now.earlier already (fun _ => writers.mpr)))
  · intro none thread writing
    rw [listeners]
    refine agrees.written (fun other clears => ?_) thread (writers.mp writing)
    by_cases mine : other = own
    · subst mine
      exact proceeds.not_enters_of_forgets inside turns half done (writers.mp writing)
        (clears.2 thread (writers.mp writing))
    · exact none other
        (clears.onward ((turns.others other mine).trans clears.1) (fun _ => writers.mp))
  · intro none nobody
    have absent : (course ticks).shared.cache.listeners.get? id = Option.none :=
      agrees.cleared own
        ⟨half, fun other writing => absurd (writers.mpr writing) (nobody other)⟩
    rw [listeners, absent, unset]
    exact ⟨fun present => (nomatch present), fun flag => (nomatch flag)⟩

/-- A tick keeps it, by cases on what its turn does to the class. -/
theorem Agrees.step : Agrees course id (ticks + 1) := by
  cases turns.turn with
  | keeps keeps same =>
      refine agrees.of_keeps keeps (fun thread => ?_)
      by_cases mine : thread = own
      · exact mine ▸ same
      · exact turns.others thread mine
  | stores start half present =>
      -- Whoever is removing the entries dropped the listener before it was put in.
      have none (thread : ThreadId) : ¬ Clears course id (ticks + 1) thread := by
        intro clears
        obtain ⟨since, before, throughout, -⟩ := (clears.2 own half).earlier clears.1
        cases start.symm.trans (throughout ticks before (Nat.le_refl _))
      exact ⟨fun thread clears => absurd clears (none thread), fun _ _ _ => present,
        fun _ nobody => absurd half (nobody own)⟩
  | flags half done listeners flag =>
      exact agrees.of_flags proceeds inside turns half done listeners flag
  | declines works start done absent flag =>
      have nobody (thread : ThreadId) : (course (ticks + 1)).phase id thread ≠ .writing := by
        intro writing
        have already := turns.before writing done nofun
        obtain rfl :=
          (proceeds.ordered ticks).resolving_unique (resolving_of_writing already) works
        cases done.symm.trans writing
      refine ⟨fun _ _ => absent, fun _ thread writing => absurd writing (nobody thread), ?_⟩
      intro _ _
      rw [absent, flag]
      exact ⟨fun present => (nomatch present), fun flag => (nomatch flag)⟩
  | drops start half absent =>
      -- The thread clears the class from now on, whoever is writing.
      have clears : Clears course id (ticks + 1) own := by
        refine ⟨half, fun other writing => ⟨ticks, Nat.le_succ _, ?_, ?_⟩⟩
        · intro between later upTo
          rcases Nat.le_succ_iff.mp upTo with earlier | rfl
          · obtain rfl := Nat.le_antisymm earlier later
            exact turns.before writing half nofun
          · exact writing
        · rw [start]
          exact nofun
      exact ⟨fun _ _ => absent, fun none => absurd clears (none own),
        fun none => absurd clears (none own)⟩
  | forgets half done listeners unset =>
      exact agrees.of_forgets proceeds inside turns half done listeners unset

end Turns

end Lifecycle.Concurrent.Machine
