import Lifecycle.Proofs.Nesting.Deeds

/-! The course of calls. However deep the calls of an interceptor are nested, its state changes deed
by deed, and each deed has its effect on the state. What is shown by induction on a course holds of
every call, whatever the mapping and the hooks do.
-/

namespace Lifecycle

variable {ε μ : Type}

/-- The state changes by the given deeds, and the calls that do them end as told. A resolution has
the lock of its class for as long as it takes, and gives it back unless it never ends.
-/
inductive Interceptor.Course (interceptor : Interceptor ε μ)
    : State μ → List Deed → Ending → State μ → Prop
  | stays (state : State μ) (ending : Ending) : Course interceptor state [] ending state
  | elsewhere (state : State μ) (readings : Readings) (memory : μ)
    : Course interceptor state [] .returned { state with readings, memory }
  | append {before middle reached earlier later ending}
    (first : Course interceptor before earlier .returned middle)
    (rest : Course interceptor middle later ending reached)
    : Course interceptor before (earlier ++ later) ending reached
  | hits {state : State μ} {cls decision} (decided : state.cache.decided? cls.id = some decision)
    : Course interceptor state [.hit cls] .returned (state.mapCache Cache.countHit)
  | settles {state middle : State μ} {cls factory lock cache deeds eligible}
    (undecided : state.cache.decided? cls.id = none)
    (enters : state.cache.enter? cls.id = some (lock, cache))
    (within : Course interceptor { state with cache := cache.countCheck } deeds .returned middle)
    (own : eligible = true → interceptor.owns cls factory = true)
    : Course interceptor state (.start cls factory :: deeds ++ [.settle cls factory eligible])
        .returned
        (((interceptor.settle cls eligible).outcome middle).2.mapCache (·.release lock false))
  | unwinds {state middle : State μ} {cls factory lock cache deeds}
    (undecided : state.cache.decided? cls.id = none)
    (enters : state.cache.enter? cls.id = some (lock, cache))
    (within : Course interceptor { state with cache := cache.countCheck } deeds .panicked middle)
    : Course interceptor state (.start cls factory :: deeds) .panicked
        (middle.mapCache (·.release lock true))
  | hangs {state middle : State μ} {cls factory lock cache deeds}
    (undecided : state.cache.decided? cls.id = none)
    (enters : state.cache.enter? cls.id = some (lock, cache))
    (within : Course interceptor { state with cache := cache.countCheck } deeds .hung middle)
    : Course interceptor state (.start cls factory :: deeds) .hung middle
  | evicts {state : State μ} {key : ClassKey} (free : state.cache.isHeld key.id = false)
    : Course interceptor state [.evict key] .returned (state.mapCache (·.forget key.id))
  | clears (state : State μ) : Course interceptor state [.clear] .returned (state.mapCache .clear)

-----------------------------------------------------------------------------------------
-- Calls and the deeds that they take
-----------------------------------------------------------------------------------------

/-- A call may panic and may never end, but it does not fail. -/
def Call.Unfailing {σ α : Type} (call : Call σ α) : Prop :=
  ∀ state cause, (call.outcome state).1 ≠ .error (.failed cause)

/-- What a call does to the state is a course of the given deeds. -/
def Call.Takes {σ α : Type} (interceptor : Interceptor ε μ) (call : Call (σ × State μ) α)
    (deeds : σ → State μ → List Deed) : Prop :=
  ∀ start state,
    interceptor.Course state (deeds start state) (.of (call.outcome (start, state)).1)
      (call.outcome (start, state)).2.2

/-- What is answered to the calls of a script takes the given deeds. -/
structure Services.Take (services : Services ε μ) (interceptor : Interceptor ε μ)
    (made : Deeds ε μ) : Prop where
  answers
    : (∀ cls factory, (services.find cls factory).Unfailing)
      ∧ (∀ key, (services.evict key).Unfailing)
      ∧ services.clear.Unfailing
  find
    : ∀ cls factory state,
        interceptor.Course state (made.find cls factory state)
          (.of ((services.find cls factory).outcome state).1)
          ((services.find cls factory).outcome state).2
  evict
    : ∀ key state,
        interceptor.Course state (made.evict key state)
          (.of ((services.evict key).outcome state).1) ((services.evict key).outcome state).2
  clear
    : ∀ state,
        interceptor.Course state (made.clear state) (.of (services.clear.outcome state).1)
          (services.clear.outcome state).2
  dispatch : services.dispatch.Takes interceptor made.dispatch

namespace Call.Unfailing

variable {σ τ α β : Type}

theorem bind {call : Call σ α} {next : α → Call σ β} (first : call.Unfailing)
    (rest : ∀ value, (next value).Unfailing)
    : (call >>= next).Unfailing := by
  intro state cause
  have begun := first state
  rw [Call.outcome_bind]
  rcases ends : call.outcome state with ⟨stop | value, reached⟩
  · rw [ends] at begun
    intro fails
    cases fails
    exact begun cause rfl
  · exact rest value reached cause

theorem onSecond {call : Call σ α} (unfailing : call.Unfailing)
    : (call.onSecond : Call (τ × σ) α).Unfailing :=
  fun start cause => unfailing start.2 cause

/-- A script does not fail: a failure of an event that it dispatches is an answer to it. -/
theorem run {own : Type} {services : Services ε μ} {interceptor : Interceptor ε μ}
    {made : Deeds ε μ} (take : services.Take interceptor made) (script : Script ε μ own α)
    : (script.run services).Unfailing := by
  obtain ⟨finds, evicts, clears⟩ := take.answers
  induction script with
  | done value | panic =>
      intro start cause fails
      cases fails
  | access change next ih =>
      intro start cause
      rw [Script.run, Call.outcome_bind, Call.outcome_get]
      simp only [Call.andThen, Call.outcome_bind, Call.outcome_set]
      exact ih _ _ cause
  | find cls factory next ih => exact .bind (.onSecond (finds cls factory)) ih
  | evict key next ih => exact .bind (.onSecond (evicts key)) ih
  | clear next ih => exact .bind (.onSecond clears) (fun _ => ih)
  | dispatch announcement next ih =>
      refine .bind (.onSecond (fun state cause => ?_)) (fun answered => ih answered.1 answered.2)
      simp only [Call.lend, Call.attempt, Call.outcome_ofOutcome]
      rcases services.dispatch.outcome (announcement, state)
        with ⟨(cause | _ | _) | value, reached⟩
      all_goals
        intro fails
        cases fails

end Call.Unfailing

/-- Deeds tell how the state changes. -/
theorem Interceptor.tells_course (interceptor : Interceptor ε μ)
    : Tells interceptor.Course (fun _ _ => []) :=
  ⟨.stays, fun state memory => .elsewhere state state.readings memory, .append⟩

namespace Call.Takes

variable {σ α β : Type} {interceptor : Interceptor ε μ} {services : Services ε μ}
  {made : Deeds ε μ} {deeds : σ → State μ → List Deed}

/-- A call that ends at once and changes nothing takes no deeds. -/
theorem still {call : Call (σ × State μ) α}
    (still : ∀ start, (call.outcome start).2.2 = start.2)
    : call.Takes interceptor (fun _ _ => []) := by
  intro start state
  rw [still (start, state)]
  exact .stays state _

theorem pure (value : α)
    : (Pure.pure value : Call (σ × State μ) α).Takes interceptor (fun _ _ => []) :=
  still (fun _ => rfl)

/-- What follows a call and does nothing adds no deeds to it. -/
theorem bind_still {call : Call (σ × State μ) α} {next : α → Call (σ × State μ) β}
    (first : call.Takes interceptor deeds)
    (rest : ∀ value, (next value).Takes interceptor (fun _ _ => []))
    : (call >>= next).Takes interceptor deeds := by
  have whole : (call >>= next).Takes interceptor (call.listThen deeds (fun _ _ _ => [])) :=
    interceptor.tells_course.bind first rest
  have same : call.listThen deeds (fun _ _ _ => []) = deeds := by
    funext start state
    unfold Call.listThen
    split <;> exact List.append_nil _
  rwa [same] at whole

/-- A script takes the deeds of the calls that it makes. -/
theorem run {own : Type} (take : services.Take interceptor made) (script : Script ε μ own α)
    : (script.run services).Takes interceptor (script.deeds services made) :=
  interceptor.tells_course.run ⟨take.find, take.evict, take.clear, take.dispatch⟩ script

/-- A hook takes the deeds of its script. -/
theorem callHook (take : services.Take interceptor made)
    (hook : ε → Script ε μ ε (Except Failure α))
    : (Listener.callHook services hook).Takes interceptor
        (fun entity => (hook entity).deeds services made entity) := by
  intro entity state
  rw [Listener.callHook, Call.outcome_bind, Call.outcome_get]
  refine bind_still (run take (hook entity)) (fun result => ?_) entity state
  cases result <;> exact .still (fun _ => rfl)

variable [Entity ε μ]

/-- Stamping an entity does nothing to the cache. -/
theorem stamp (listener : Listener) (change : Instant → AuditStamps → AuditStamps)
    : (listener.stamp change : Call (ε × State μ) Unit).Takes interceptor (fun _ _ => []) := by
  intro entity state
  rw [Listener.stamp, Call.outcome_modify]
  dsimp only
  split
  · exact .stays state _
  · exact .elsewhere state _ state.memory

theorem judge (listener : Listener)
    : (listener.judge : Call (ε × State μ) Bool).Takes interceptor (fun _ _ => []) := by
  refine .still (fun start => ?_)
  rw [Listener.outcome_judge]
  cases listener.judgement start.1 <;> rfl

/-- Nothing that follows a hook does anything to the cache. -/
theorem after (listener : Listener) (event : Event ε) (decision : Decision)
    : (listener.after event decision : Call (ε × State μ) Bool).Takes interceptor
        (fun _ _ => []) := by
  cases event with
  | pre write payload =>
      simp only [Listener.after]
      split
      · exact .pure true
      · split
        · exact .bind_still (.stamp listener _) (fun _ => .judge listener)
        · exact .pure false
  | saveOrUpdate payload =>
      refine .bind_still ?_ (fun _ => .pure false)
      unfold Listener.onSave
      split
      · exact .pure ()
      · exact .stamp listener _
  | post | preLoad | postLoad | validation => exact .pure false

/-- A listener takes the deeds of the hook that it calls. -/
theorem react (take : services.Take interceptor made) (listener : Listener)
    : (listener.react services : Call (Announcement ε × State μ) Bool).Takes interceptor
        (fun announcement => announcement.event.deeds services made) := by
  intro announcement state
  have attends
      : (listener.attend services announcement.event).Takes interceptor
          (fun entity => (announcement.event.callback entity).deeds services made entity) :=
    .bind_still (.callHook take announcement.event.callback) (.after listener _)
  show interceptor.Course state (announcement.event.deeds services made state) _ _
  rw [Listener.outcome_react]
  unfold Event.deeds
  cases announcement.event.entity with
  | none => exact .stays state _
  | some entity => exact attends entity state

theorem deliver (take : services.Take interceptor made) (listener : Listener)
    : (listener.deliver services : Call (Announcement ε × State μ) Unit).Takes interceptor
        (fun announcement => announcement.event.deeds services made) := by
  refine .bind_still (.react take listener) (fun skipped => ?_)
  split
  · exact .still (fun _ => rfl)
  · exact .pure ()

end Call.Takes

end Lifecycle
