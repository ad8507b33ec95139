import Lifecycle.Proofs.Chronicle.Occurrences
import Lifecycle.Proofs.Nesting.Coherence

/-! How calls unfold. Each occurrence in the course of a call does something to the state, and
nothing else does but the code that the interceptor calls, which has a memory of its own. What is
shown by induction on an unfolding holds of every call, however deep its calls are nested and
however it ends.
-/

namespace Lifecycle

variable {ε μ : Type} [Entity ε μ]

/-- The state changes as the given occurrences tell, and the calls in whose course they happen end
as told. A class that is looked for is counted once, as a hit or as a check that begins; a check of
the datastore's own is a question to the mapping, and whatever that leads to happens before the
answer. A stamp is filled in with the next reading of the interceptor's clock.
-/
inductive Interceptor.Unfolds (interceptor : Interceptor ε μ)
    : State μ → List (Occurrence ε) → Ending → State μ → Prop
  | stays (state : State μ) (ending : Ending) : Unfolds interceptor state [] ending state
  | remembers (state : State μ) (memory : μ)
    : Unfolds interceptor state [] .returned { state with memory }
  | append {before middle reached earlier later ending}
    (first : Unfolds interceptor before earlier .returned middle)
    (rest : Unfolds interceptor middle later ending reached)
    : Unfolds interceptor before (earlier ++ later) ending reached
  | hits {state : State μ} {cls factory decision}
    (decided : state.cache.decided? cls.id = some decision)
    : Unfolds interceptor state [.sought cls factory] .returned (state.mapCache Cache.countHit)
  | blocked (state : State μ) (cls : EntityClass) (factory : Option SessionFactory)
    : Unfolds interceptor state [.sought cls factory] .hung state
  | declines {state : State μ} {cls factory lock cache}
    (undecided : state.cache.decided? cls.id = none)
    (enters : state.cache.enter? cls.id = some (lock, cache))
    : Unfolds interceptor state [.sought cls factory] .returned
        (((interceptor.settle cls false).outcome
          { state with cache := cache.countCheck }).2.mapCache (·.release lock false))
  | settles {state middle : State μ} {cls factory lock cache within eligible}
    (undecided : state.cache.decided? cls.id = none)
    (enters : state.cache.enter? cls.id = some (lock, cache))
    (own : interceptor.owns cls factory = true)
    (asked
      : Unfolds interceptor { state with cache := cache.countCheck } within .returned middle)
    : Unfolds interceptor state
        (.sought cls factory :: .consulted cls :: within ++ [.answered cls eligible]) .returned
        (((interceptor.settle cls eligible).outcome middle).2.mapCache (·.release lock false))
  | unwinds {state middle : State μ} {cls factory lock cache within}
    (undecided : state.cache.decided? cls.id = none)
    (enters : state.cache.enter? cls.id = some (lock, cache))
    (asked
      : Unfolds interceptor { state with cache := cache.countCheck } within .panicked middle)
    : Unfolds interceptor state (.sought cls factory :: .consulted cls :: within) .panicked
        (middle.mapCache (·.release lock true))
  | hangs {state middle : State μ} {cls factory lock cache within}
    (undecided : state.cache.decided? cls.id = none)
    (enters : state.cache.enter? cls.id = some (lock, cache))
    (asked : Unfolds interceptor { state with cache := cache.countCheck } within .hung middle)
    : Unfolds interceptor state (.sought cls factory :: .consulted cls :: within) .hung middle
  | evicts {state : State μ} {key : ClassKey} (free : state.cache.isHeld key.id = false)
    : Unfolds interceptor state
        [.dropped (state.cache.listeners.get? key.id).isSome.toNat] .returned
        (state.mapCache (·.forget key.id))
  | clears (state : State μ)
    : Unfolds interceptor state [.dropped state.cache.listeners.size] .returned
        (state.mapCache Cache.clear)
  | calls (state : State μ) (hook : Hook) (entity : ε)
    : Unfolds interceptor state [.called hook entity] .returned state
  | stamps {state : State μ} {kind : EventKind} {hooked : ε} {change old}
    (rule : kind.stamping? = some change) (shown : Entity.stamps hooked = some old)
    : Unfolds interceptor state
        [.stamped ⟨kind, hooked,
          some (Entity.withStamps hooked
            (change (state.clock.reading (state.readings.count state.clock)) old))⟩]
        .returned { state with readings := (state.readings.next state.clock).2 }

namespace Interceptor.Unfolds

variable {interceptor : Interceptor ε μ} {before reached : State μ}
  {happened : List (Occurrence ε)} {ending : Ending}

/-- What unfolds is a course of deeds. -/
theorem exists_course (unfolds : interceptor.Unfolds before happened ending reached)
    : ∃ deeds, interceptor.Course before deeds ending reached := by
  induction unfolds with
  | stays state ending => exact ⟨_, .stays state ending⟩
  | remembers state memory => exact ⟨_, .elsewhere state state.readings memory⟩
  | append first rest ih ih' =>
      obtain ⟨earlier, course⟩ := ih
      obtain ⟨later, course'⟩ := ih'
      exact ⟨_, course.append course'⟩
  | hits decided => exact ⟨_, .hits decided⟩
  | blocked state => exact ⟨_, .stays state _⟩
  | @declines state cls factory lock cache undecided enters =>
      exact ⟨.start cls factory :: [] ++ [.settle cls factory false],
        .settles undecided enters (.stays _ _) (absurd · Bool.false_ne_true)⟩
  | settles undecided enters own asked ih =>
      obtain ⟨deeds, course⟩ := ih
      exact ⟨_, .settles undecided enters course (fun _ => own)⟩
  | @unwinds state middle cls factory lock cache within undecided enters asked ih =>
      obtain ⟨deeds, course⟩ := ih
      exact ⟨.start cls factory :: deeds, .unwinds undecided enters course⟩
  | @hangs state middle cls factory lock cache within undecided enters asked ih =>
      obtain ⟨deeds, course⟩ := ih
      exact ⟨.start cls factory :: deeds, .hangs undecided enters course⟩
  | evicts free => exact ⟨_, .evicts free⟩
  | clears state => exact ⟨_, .clears state⟩
  | calls state => exact ⟨_, .stays state _⟩
  | stamps => exact ⟨_, .elsewhere _ _ _⟩

theorem tidy (unfolds : interceptor.Unfolds before happened ending reached)
    (tidy : interceptor.Tidy before)
    : interceptor.Tidy reached := by
  obtain ⟨deeds, course⟩ := unfolds.exists_course
  exact course.tidy tidy

end Interceptor.Unfolds

end Lifecycle
