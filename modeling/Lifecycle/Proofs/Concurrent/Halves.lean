import Lifecycle.Proofs.Concurrent.Vacancy

/-! Calls that change both entries of a class, one after the other. A resolution puts in the listener
and then sets the trigger; an eviction drops the listener and then drops the trigger. In between a
call is half done, and others may see that or change the entries themselves.
-/

namespace Lifecycle.Concurrent

-----------------------------------------------------------------------------------------
-- How far a call has come with a class
-----------------------------------------------------------------------------------------

/-- How far a call has come with the two entries of a class: it has put in the listener and not set
the trigger yet, or it has dropped the listener and not the trigger yet, or it is not in between.
-/
inductive Phase where
  | idle
  | writing
  | removing
  deriving DecidableEq, Repr

def Stage.phase : Stage → Phase
  | .insertTrigger (some _) => .writing
  | _ => .idle

def FindPoint.phase : FindPoint → Phase
  | .inside _ stage => stage.phase
  | _ => .idle

def EvictPoint.phase : EvictPoint → Phase
  | .dropTrigger _ _ => .removing
  | _ => .idle

/-- An eviction of all has come past a class in the first table before it does in the second. -/
def ClearPoint.phase (id : TypeId) : ClearPoint → Phase
  | .listeners swept => if id ∈ swept then .removing else .idle
  | .triggers swept => if id ∈ swept then .idle else .removing

def Activity.phase (id : TypeId) : Activity → Phase
  | .find cls _ point => if cls.id = id then point.phase else .idle
  | .evict key point => if key.id = id then point.phase else .idle
  | .clear point => point.phase id

/-- The phase of a thread, by the call that it is in. A thread in no call is idle. -/
def Activity.phase? (id : TypeId) (activity : Option Activity) : Phase :=
  activity.elim .idle (Activity.phase id)

theorem Request.phase_begin (request : Request) (id : TypeId) : request.begin.phase id = .idle := by
  cases request with
  | find cls factory => exact ite_self _
  | evict key => exact ite_self _
  | clear => rfl

/-- A call that has put in a listener and not set the trigger yet is at work on the class. -/
theorem Activity.worksOn_of_writing {activity : Activity} {id : TypeId}
    (writing : activity.phase id = .writing)
    : activity.WorksOn id := by
  cases activity with
  | find cls factory point =>
      simp only [phase] at writing
      split at writing
      · rename_i same
        cases point with
        | inside lock stage => exact same
        | _ => cases writing
      · cases writing
  | evict key point =>
      simp only [phase] at writing
      split at writing
      · cases point <;> cases writing
      · cases writing
  | clear point =>
      cases point with
      | listeners swept | triggers swept =>
          simp only [phase, ClearPoint.phase] at writing
          split at writing <;> cases writing

-----------------------------------------------------------------------------------------
-- What one step does to a class
-----------------------------------------------------------------------------------------

variable {ground : Ground} {tick : Tick} {shared reached : Shared} {id : TypeId}

/-- All that a step can do to the entries of a class, by the phase of the call before it and after
it: nothing; either half of writing them or of removing them; or, if the call is at work on the
class, setting the trigger that says that there is no listener.
-/
inductive Shared.Turn (shared reached : Shared) (id : TypeId) (working : Prop)
    (before after : Phase)
    : Prop
  | keeps (keeps : shared.Keeps reached id) (same : after = before)
  | stores (start : before = .idle) (half : after = .writing)
    (present : (reached.cache.listeners.get? id).isSome)
  | flags (half : before = .writing) (done : after = .idle)
    (listeners : reached.cache.listeners.get? id = shared.cache.listeners.get? id)
    (flag : reached.cache.triggers.get? id = some true)
  | declines (works : working) (start : before = .idle) (done : after = .idle)
    (absent : reached.cache.listeners.get? id = none)
    (flag : reached.cache.triggers.get? id = some false)
  | drops (start : before = .idle) (half : after = .removing)
    (absent : reached.cache.listeners.get? id = none)
  | forgets (half : before = .removing) (done : after = .idle)
    (listeners : reached.cache.listeners.get? id = shared.cache.listeners.get? id)
    (unset : reached.cache.triggers.get? id = none)

theorem Shared.Turn.imp {working others : Prop} {before after : Phase}
    (turn : shared.Turn reached id working before after) (works : working → others)
    : shared.Turn reached id others before after := by
  cases turn with
  | keeps keeps same => exact .keeps keeps same
  | stores start half present => exact .stores start half present
  | flags half done listeners flag => exact .flags half done listeners flag
  | declines working start done absent flag => exact .declines (works working) start done absent flag
  | drops start half absent => exact .drops start half absent
  | forgets half done listeners unset => exact .forgets half done listeners unset

/-- What a step of a call does to the entries of a class, and to the phase of the call. -/
def Activity.Turns (activity : Activity) (progress : Progress Activity) (shared reached : Shared)
    (id : TypeId)
    : Prop :=
  shared.Turn reached id (activity.WorksOn id) (activity.phase id)
    (Activity.phase? id progress.next?)

/-- A step inside the lock of a class leaves its entries alone or writes one of them. -/
theorem Stage.Goes.turn {cls : EntityClass} {factory : Option SessionFactory} {lock : LockId}
    {stage : Stage} {progress : Progress Stage}
    (goes : stage.Goes ground tick cls factory lock shared reached progress)
    (relies : stage.Relies shared cls.id)
    : (Activity.find cls factory (.inside lock stage)).Turns
        ((progress.map (.inside lock)).map (.find cls factory)) shared reached cls.id := by
  have phases (stage : Stage)
      : (Activity.find cls factory (.inside lock stage)).phase cls.id = stage.phase :=
    if_pos rfl
  cases goes with
  | relooks | misses | declines | proceeds | counts | disowns | maps | unmaps | panics =>
      exact .keeps ⟨rfl, rfl⟩ ((phases _).trans (phases _).symm)
  | returns | unwinds =>
      refine .keeps ⟨rfl, rfl⟩ ?_
      rw [phases]
      rfl
  | inserts vacant =>
      refine .stores (phases _) (phases _) ?_
      exact congrArg Option.isSome ((Table.get?_insert ..).trans (if_pos rfl))
  | yields occupied => cases relies.1.symm.trans occupied
  | flags answer =>
      have flag
          : (shared.mapCache (·.setTrigger cls.id answer.isSome)).cache.triggers.get? cls.id
            = some answer.isSome :=
        (Table.get?_insert ..).trans (if_pos rfl)
      cases answer with
      | none => exact .declines rfl (phases _) (phases _) relies flag
      | some listener => exact .flags (phases _) (phases _) rfl flag

/-- A step of an eviction of a class is one half of removing its entries, or leaves them alone. -/
theorem EvictPoint.Goes.turn {key : ClassKey} {point : EvictPoint} {progress : Progress EvictPoint}
    (goes : point.Goes tick key shared reached progress)
    : (Activity.evict key point).Turns (progress.map (.evict key)) shared reached key.id := by
  have phases (point : EvictPoint) : (Activity.evict key point).phase key.id = point.phase :=
    if_pos rfl
  cases goes with
  | finds | misses | acquires => exact .keeps ⟨rfl, rfl⟩ ((phases _).trans (phases _).symm)
  | returns =>
      refine .keeps ⟨rfl, rfl⟩ ?_
      rw [phases]
      rfl
  | dropsListener held =>
      exact .drops (phases _) (phases _) ((Table.get?_erase ..).trans (if_pos rfl))
  | dropsTrigger lock dropped =>
      exact .forgets (phases _) (phases _) rfl ((Table.get?_erase ..).trans (if_pos rfl))
  | finishes dropped =>
      exact .forgets (phases _) rfl rfl ((Table.get?_erase ..).trans (if_pos rfl))

/-- A step of an eviction of all does so for the class that it goes past. It leaves a table only
when it has gone past every class in it, so a class that it has not gone past has no entry there.
-/
theorem ClearPoint.Goes.turn {point : ClearPoint} {progress : Progress ClearPoint}
    (goes : point.Goes shared reached progress) (id : TypeId)
    : (Activity.clear point).Turns (progress.map .clear) shared reached id := by
  have listed {α : Type} (table : Table α) {swept : List TypeId}
      (passed : ∀ other ∈ table.ids, other ∈ swept) (missed : id ∉ swept)
      : table.get? id = none := by
    rw [← Option.not_isSome_iff_eq_none, ← table.mem_ids_iff]
    exact fun present => missed (passed id present)
  cases goes with
  | @dropsListener swept dropped fresh =>
      by_cases own : id = dropped
      · subst own
        exact .drops (if_neg fresh) (if_pos (List.mem_cons_self ..))
          ((Table.get?_erase ..).trans (if_pos rfl))
      · refine .keeps ⟨(Table.get?_erase ..).trans (if_neg own), rfl⟩ ?_
        simp [Activity.phase?, Activity.phase, Progress.map, Progress.next?, phase, own]
  | @turns swept passed =>
      by_cases past : id ∈ swept
      · exact .keeps ⟨rfl, rfl⟩ (if_pos past).symm
      · exact .drops (if_neg past) rfl (listed _ passed past)
  | @dropsTrigger swept dropped fresh =>
      by_cases own : id = dropped
      · subst own
        exact .forgets (if_neg fresh) (if_pos (List.mem_cons_self ..)) rfl
          ((Table.get?_erase ..).trans (if_pos rfl))
      · refine .keeps ⟨rfl, (Table.get?_erase ..).trans (if_neg own)⟩ ?_
        simp [Activity.phase?, Activity.phase, Progress.map, Progress.next?, phase, own]
  | @returns swept passed =>
      by_cases past : id ∈ swept
      · exact .keeps ⟨rfl, rfl⟩ (if_pos past).symm
      · exact .forgets (if_neg past) rfl rfl (listed _ passed past)

/-- A step of an eviction of another class leaves the class as it is. -/
theorem EvictPoint.Goes.keeps {key : ClassKey} {point : EvictPoint} {progress : Progress EvictPoint}
    (goes : point.Goes tick key shared reached progress) (other : key.id ≠ id)
    : shared.Keeps reached id := by
  have apart : ¬ id = key.id := fun same => other same.symm
  cases goes with
  | finds | misses | acquires | returns => exact ⟨rfl, rfl⟩
  | dropsListener => exact ⟨(Table.get?_erase ..).trans (if_neg apart), rfl⟩
  | dropsTrigger | finishes => exact ⟨rfl, (Table.get?_erase ..).trans (if_neg apart)⟩

/-- Every step of a call is such a turn, for every class. -/
theorem Activity.Goes.turn {activity : Activity} {progress : Progress Activity}
    (goes : activity.Goes ground tick shared reached progress) (relies : activity.Relies shared)
    (id : TypeId)
    : activity.Turns progress shared reached id := by
  cases goes with
  | @find cls factory point reached progress goes =>
      by_cases own : cls.id = id
      · subst own
        cases goes with
        | inside goes => exact goes.turn relies
        | hits | misses | declines | proceeds | acquires =>
            exact .keeps ⟨rfl, rfl⟩ ((ite_self _).trans (ite_self _).symm)
        | counts => exact .keeps ⟨rfl, rfl⟩ (ite_self _).symm
        | ensures =>
            refine .keeps ?_ ((ite_self _).trans (ite_self _).symm)
            rw [Shared.mapCache, Cache.ensureLock_frame]
            exact ⟨rfl, rfl⟩
      · have elsewhere : ¬ (Activity.find cls factory point).WorksOn id := by
          intro works
          obtain ⟨_, _, _, _, same, there⟩ := works.eq_inside
          cases same
          exact own there
        refine .keeps (goes.keeps elsewhere) (Eq.trans ?_ (if_neg own).symm)
        cases progress with
        | next point => exact if_neg own
        | finish => rfl
  | @evict key point reached progress goes =>
      by_cases own : key.id = id
      · exact own ▸ goes.turn
      · refine .keeps (goes.keeps own) (Eq.trans ?_ (if_neg own).symm)
        cases progress with
        | next point => exact if_neg own
        | finish => rfl
  | clear goes => exact goes.turn id

-----------------------------------------------------------------------------------------
-- What one tick does to a machine
-----------------------------------------------------------------------------------------

namespace Machine

variable {machine next : Machine}

/-- The phase of a thread, as to a class. -/
def phase (machine : Machine) (id : TypeId) (thread : ThreadId) : Phase :=
  Activity.phase? id (machine.activity? thread)

/-- A tick is a turn of one thread, which leaves the phases of all others as they are. -/
structure Turns (machine next : Machine) (id : TypeId) (own : ThreadId) : Prop where
  others : ∀ thread, thread ≠ own → next.phase id thread = machine.phase id thread
  turn
    : machine.shared.Turn next.shared id (machine.Resolving own id) (machine.phase id own)
        (next.phase id own)

/-- A thread that is in a phase after a turn, in which the thread of the turn is not, was in it
before.
-/
theorem Turns.before {thread own : ThreadId} {id : TypeId} {phase other : Phase}
    (turns : machine.Turns next id own) (now : next.phase id thread = phase)
    (elsewhere : next.phase id own = other) (differ : other ≠ phase)
    : machine.phase id thread = phase := by
  have apart : thread ≠ own := by
    rintro rfl
    exact differ (elsewhere.symm.trans now)
  exact (turns.others thread apart).symm.trans now

/-- And a thread that was in a phase before the turn, in which the thread of the turn was not, stays
in it.
-/
theorem Turns.after {thread own : ThreadId} {id : TypeId} {phase other : Phase}
    (turns : machine.Turns next id own) (before : machine.phase id thread = phase)
    (elsewhere : machine.phase id own = other) (differ : other ≠ phase)
    : next.phase id thread = phase := by
  have apart : thread ≠ own := by
    rintro rfl
    exact differ (elsewhere.symm.trans before)
  exact (turns.others thread apart).trans before

/-- A machine that stays as it is does nothing to any class. -/
theorem Turns.refl (machine : Machine) (id : TypeId) (own : ThreadId)
    : machine.Turns machine id own :=
  ⟨fun _ _ => rfl, .keeps ⟨rfl, rfl⟩ rfl⟩

theorem Moves.turns (moved : Moves ground tick machine next) (sound : machine.Sound) (id : TypeId)
    : machine.Turns next id tick.thread := by
  rcases moved.view with ⟨idle, same, request, view, -⟩
    | ⟨activity, progress, busy, goes, view, -⟩
  · refine ⟨?_, .keeps ⟨by rw [same], by rw [same]⟩ ?_⟩
    · intro thread apart
      rw [phase, phase, view, if_neg apart]
    · rw [phase, phase, view, if_pos rfl, idle]
      exact request.phase_begin id
  · refine ⟨?_, ?_⟩
    · intro thread apart
      rw [phase, phase, view, if_neg apart]
    · rw [phase, phase, view, if_pos rfl, busy]
      exact (goes.turn (sound.relies busy) id).imp (fun works => ⟨activity, busy, works⟩)

/-- A thread that is writing the entries of a class is at work on it. -/
theorem resolving_of_writing {id : TypeId} {thread : ThreadId}
    (writing : machine.phase id thread = .writing)
    : machine.Resolving thread id := by
  unfold phase at writing
  cases under : machine.activity? thread with
  | none =>
      rw [under] at writing
      cases writing
  | some activity =>
      rw [under] at writing
      exact ⟨activity, under, Activity.worksOn_of_writing writing⟩

end Machine

end Lifecycle.Concurrent
