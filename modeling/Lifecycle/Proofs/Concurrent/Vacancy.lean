import Lifecycle.Proofs.Concurrent.Exclusion

/-! What a call that is at work on a class may rely on while evictions go on. Whoever is not at
work on a class can only make the cache forget it, so what the call found absent stays absent
until the call itself puts it there.
-/

namespace Lifecycle.Concurrent

variable {ground : Ground} {tick : Tick} {shared reached : Shared} {id : TypeId}

-----------------------------------------------------------------------------------------
-- What a step does to the entries of a class
-----------------------------------------------------------------------------------------

/-- The class has the listener and the trigger that it had. -/
structure Shared.Keeps (shared reached : Shared) (id : TypeId) : Prop where
  listeners : reached.cache.listeners.get? id = shared.cache.listeners.get? id
  triggers : reached.cache.triggers.get? id = shared.cache.triggers.get? id

/-- The class has the listener and the trigger that it had, or has lost one of them or both. -/
structure Shared.Forgets (shared reached : Shared) (id : TypeId) : Prop where
  listeners
    : reached.cache.listeners.get? id = shared.cache.listeners.get? id
      ∨ reached.cache.listeners.get? id = none
  triggers
    : reached.cache.triggers.get? id = shared.cache.triggers.get? id
      ∨ reached.cache.triggers.get? id = none

theorem Shared.Keeps.forgets (keeps : shared.Keeps reached id) : shared.Forgets reached id :=
  ⟨Or.inl keeps.listeners, Or.inl keeps.triggers⟩

/-- A call at work on one class leaves every other class as it is. -/
theorem Stage.Goes.keeps {cls : EntityClass} {factory : Option SessionFactory} {lock : LockId}
    {stage : Stage} {progress : Progress Stage}
    (goes : stage.Goes ground tick cls factory lock shared reached progress)
    (other : cls.id ≠ id)
    : shared.Keeps reached id := by
  have apart : ¬ id = cls.id := fun same => other same.symm
  cases goes with
  | inserts =>
      refine ⟨?_, rfl⟩
      exact (Table.get?_insert ..).trans (if_neg apart)
  | flags =>
      refine ⟨rfl, ?_⟩
      exact (Table.get?_insert ..).trans (if_neg apart)
  | relooks | misses | declines | proceeds | counts | disowns | maps | unmaps | panics | yields
  | returns | unwinds => exact ⟨rfl, rfl⟩

/-- A call to find a listener leaves every class as it is, except that on which it is at work. -/
theorem FindPoint.Goes.keeps {cls : EntityClass} {factory : Option SessionFactory}
    {point : FindPoint} {progress : Progress FindPoint}
    (goes : point.Goes ground tick cls factory shared reached progress)
    (elsewhere : ¬ (Activity.find cls factory point).WorksOn id)
    : shared.Keeps reached id := by
  cases goes with
  | hits | misses | declines | proceeds | counts | acquires => exact ⟨rfl, rfl⟩
  | ensures =>
      rw [Shared.mapCache, Cache.ensureLock_frame]
      exact ⟨rfl, rfl⟩
  | inside goes => exact goes.keeps elsewhere

/-- The listener of a class is dropped, or that of another. -/
theorem Shared.forgets_dropListener (shared : Shared) (dropped id : TypeId)
    : shared.Forgets (shared.mapCache (·.dropListener dropped)) id := by
  refine ⟨?_, Or.inl rfl⟩
  simp only [mapCache, Cache.dropListener, Table.get?_erase]
  split
  · exact Or.inr rfl
  · exact Or.inl rfl

/-- The trigger of a class is dropped, or that of another. -/
theorem Shared.forgets_dropTrigger (shared : Shared) (dropped id : TypeId)
    : shared.Forgets (shared.mapCache (·.dropTrigger dropped)) id := by
  refine ⟨Or.inl rfl, ?_⟩
  simp only [mapCache, Cache.dropTrigger, Table.get?_erase]
  split
  · exact Or.inr rfl
  · exact Or.inl rfl

/-- Whoever is not at work on a class can only make the cache forget it. -/
theorem Activity.Goes.forgets {activity : Activity} {progress : Progress Activity}
    (goes : activity.Goes ground tick shared reached progress)
    (elsewhere : ¬ activity.WorksOn id)
    : shared.Forgets reached id := by
  cases goes with
  | find goes => exact (goes.keeps elsewhere).forgets
  | evict goes =>
      cases goes with
      | dropsListener => exact shared.forgets_dropListener _ id
      | dropsTrigger | finishes => exact shared.forgets_dropTrigger _ id
      | finds | misses | acquires | returns => exact Shared.Keeps.forgets ⟨rfl, rfl⟩
  | clear goes =>
      cases goes with
      | dropsListener => exact shared.forgets_dropListener _ id
      | dropsTrigger => exact shared.forgets_dropTrigger _ id
      | turns | returns => exact Shared.Keeps.forgets ⟨rfl, rfl⟩

-----------------------------------------------------------------------------------------
-- What a call at work on a class relies on
-----------------------------------------------------------------------------------------

/-- The class does not have a listener while its events are known to trigger none. -/
def Shared.Coherent (shared : Shared) (id : TypeId) : Prop :=
  (shared.cache.listeners.get? id).isSome → shared.cache.triggers.get? id ≠ some false

/-- What a call has found of its class by the time it comes to a stage: before it puts in a
listener there is none and no trigger forbids one, and before it forbids listeners there is none.
-/
def Stage.Relies (shared : Shared) (id : TypeId) : Stage → Prop
  | .relookTrigger => shared.cache.listeners.get? id = none
  | .countCheck | .consult | .insertListener =>
      shared.cache.listeners.get? id = none ∧ shared.cache.triggers.get? id ≠ some false
  | .insertTrigger none => shared.cache.listeners.get? id = none
  | .relookListener | .insertTrigger (some _) | .release _ | .unwind => True

/-- What a call has found of the class on which it is at work, if it is at work on one. -/
def Activity.Relies (shared : Shared) : Activity → Prop
  | .find cls _ (.inside _ stage) => stage.Relies shared cls.id
  | _ => True

theorem Request.relies_begin (request : Request) (shared : Shared)
    : request.begin.Relies shared := by
  cases request <;> trivial

theorem Shared.Forgets.absent (forgets : shared.Forgets reached id)
    (absent : shared.cache.listeners.get? id = none)
    : reached.cache.listeners.get? id = none :=
  forgets.listeners.elim (fun same => same.trans absent) (fun lost => lost)

theorem Shared.Forgets.permits (forgets : shared.Forgets reached id)
    (permits : shared.cache.triggers.get? id ≠ some false)
    : reached.cache.triggers.get? id ≠ some false := by
  rcases forgets.triggers with same | lost
  · exact same ▸ permits
  · rw [lost]
    exact fun flag => nomatch flag

/-- A class that is partly forgotten is no less coherent. -/
theorem Shared.Forgets.coherent (forgets : shared.Forgets reached id)
    (coherent : shared.Coherent id)
    : reached.Coherent id := by
  intro present
  rcases forgets.listeners with same | lost
  · rw [same] at present
    exact forgets.permits (coherent present)
  · rw [lost] at present
    cases present

/-- What a call relies on is not disturbed when others make the cache forget the class. -/
theorem Shared.Forgets.stage_relies (forgets : shared.Forgets reached id) {stage : Stage}
    (relies : stage.Relies shared id)
    : stage.Relies reached id := by
  cases stage with
  | relookTrigger => exact forgets.absent relies
  | countCheck | consult | insertListener =>
      exact ⟨forgets.absent relies.1, forgets.permits relies.2⟩
  | insertTrigger answer =>
      cases answer with
      | none => exact forgets.absent relies
      | some listener => trivial
  | relookListener | release | unwind => trivial

/-- A call keeps what it relies on as long as others do no more than make the cache forget. -/
theorem Activity.Relies.mono {activity : Activity} (relies : activity.Relies shared)
    (forgets : ∀ id, activity.WorksOn id → shared.Forgets reached id)
    : activity.Relies reached := by
  cases activity with
  | find cls factory point =>
      cases point with
      | inside lock stage => exact (forgets cls.id rfl).stage_relies relies
      | _ => trivial
  | evict | clear => trivial

/-- The step of a call at work on a class leaves the class coherent, and establishes what the next
stage relies on.
-/
theorem Stage.Goes.relies {cls : EntityClass} {factory : Option SessionFactory} {lock : LockId}
    {stage : Stage} {progress : Progress Stage}
    (goes : stage.Goes ground tick cls factory lock shared reached progress)
    (relies : stage.Relies shared cls.id) (coherent : shared.Coherent cls.id)
    : reached.Coherent cls.id
      ∧ ∀ next, progress.next? = some next → next.Relies reached cls.id := by
  cases goes with
  | misses absent => exact ⟨coherent, fun next leads => by cases leads; exact absent⟩
  | proceeds permits => exact ⟨coherent, fun next leads => by cases leads; exact ⟨relies, permits⟩⟩
  | disowns | unmaps => exact ⟨coherent, fun next leads => by cases leads; exact relies.1⟩
  | counts | maps => exact ⟨coherent, fun next leads => by cases leads; exact relies⟩
  | inserts => exact ⟨fun _ => relies.2, fun next leads => by cases leads; trivial⟩
  | flags answer =>
      refine ⟨?_, fun next leads => by cases leads; trivial⟩
      intro present flag
      have stored : some answer.isSome = some false :=
        ((Table.get?_insert ..).trans (if_pos rfl)).symm.trans flag
      cases answer with
      | none =>
          have absent : shared.cache.listeners.get? cls.id = none := relies
          have present : (shared.cache.listeners.get? cls.id).isSome := present
          rw [absent] at present
          cases present
      | some listener => cases stored
  | relooks | declines | panics | yields =>
      exact ⟨coherent, fun next leads => by cases leads; trivial⟩
  | returns | unwinds => exact ⟨coherent, fun next leads => by cases leads⟩

/-- The step of a call leaves every class coherent, and establishes what the call relies on next.
-/
theorem Activity.Goes.relies {activity : Activity} {progress : Progress Activity}
    (goes : activity.Goes ground tick shared reached progress)
    (relies : activity.Relies shared) (coherent : ∀ id, shared.Coherent id)
    : (∀ id, reached.Coherent id)
      ∧ ∀ next, progress.next? = some next → next.Relies reached := by
  by_cases working : ∃ id, activity.WorksOn id
  · obtain ⟨id, working⟩ := working
    obtain ⟨cls, factory, lock, stage, rfl, rfl⟩ := working.eq_inside
    cases goes with
    | find goes =>
        cases goes with
        | inside goes =>
            obtain ⟨coherent', relies'⟩ := goes.relies relies (coherent cls.id)
            refine ⟨?_, ?_⟩
            · intro id
              by_cases own : cls.id = id
              · exact own ▸ coherent'
              · exact (goes.keeps own).forgets.coherent (coherent id)
            · intro next leads
              rw [Progress.next?_map, Progress.next?_map] at leads
              obtain ⟨point, entered, rfl⟩ := Option.map_eq_some_iff.mp leads
              obtain ⟨stage, staged, rfl⟩ := Option.map_eq_some_iff.mp entered
              exact relies' stage staged
  · refine ⟨?_, ?_⟩
    · intro id
      exact (goes.forgets (fun works => working ⟨id, works⟩)).coherent (coherent id)
    · intro next leads
      cases goes with
      | find goes =>
          cases goes with
          | inside => exact absurd ⟨_, rfl⟩ working
          | hits | misses | declines | proceeds | ensures | acquires => cases leads; trivial
          | counts => cases leads
      | evict goes => cases goes <;> cases leads <;> trivial
      | clear goes => cases goes <;> cases leads <;> trivial

-----------------------------------------------------------------------------------------
-- What every schedule keeps
-----------------------------------------------------------------------------------------

namespace Machine

variable {machine next : Machine}

/-- Every class is coherent, and every call finds of its class what it relies on. -/
structure Sound (machine : Machine) : Prop where
  coherent : ∀ id, machine.shared.Coherent id
  relies
    : ∀ {thread activity},
        machine.activity? thread = some activity
        → activity.Relies machine.shared

theorem Sound.initial (requests : List (List Request)) : (Machine.initial requests).Sound where
  coherent _ present := by cases present
  relies under := by
    rw [activity?_initial] at under
    cases under

/-- A move keeps the machine sound. The call that moves is the only one at work on its class and
sees to its own next stage; every other call finds at most that something was forgotten.
-/
theorem Sound.move (sound : machine.Sound) (ordered : machine.Ordered)
    (moved : Moves ground tick machine next)
    : next.Sound := by
  rcases moved.view with ⟨idle, same, request, view, -⟩
    | ⟨activity, progress, busy, goes, view, -⟩
  · refine ⟨fun id => same ▸ sound.coherent id, ?_⟩
    intro thread activity under
    rw [view] at under
    split at under
    · cases under
      exact request.relies_begin next.shared
    · exact same ▸ sound.relies under
  · obtain ⟨coherent, relies⟩ := goes.relies (sound.relies busy) sound.coherent
    refine ⟨coherent, ?_⟩
    intro thread other under
    rw [view] at under
    split at under
    · exact relies other under
    · rename_i apart
      refine (sound.relies under).mono (fun id works => goes.forgets (fun working => apart ?_))
      exact ordered.resolving_unique ⟨other, under, works⟩ ⟨activity, busy, working⟩

/-- The machine is sound after every schedule. -/
theorem Sound.run (requests : List (List Request)) (schedule : List Tick)
    : ((Machine.initial requests).run ground schedule).Sound :=
  run_induction Sound (.initial requests)
    (fun before _ _ sound _ moved => sound.move (.run requests before) moved)

end Machine

end Lifecycle.Concurrent
