import Lifecycle.Proofs.Nesting.Course
import Lifecycle.Proofs.Nesting.Locks

/-! The calls of an interceptor and their courses. Looking for a listener, evicting and dispatching
take the deeds that are listed for them, at every depth, so that an induction on courses tells of
all of them at once.
-/

namespace Lifecycle

variable {ε μ : Type}

namespace Interceptor

variable {services : Services ε μ} {made : Deeds ε μ}

/-- A check takes the deeds of the mapping, if the mapping is asked. -/
theorem course_isEligible (interceptor : Interceptor ε μ) (take : services.Take interceptor made)
    (cls : EntityClass) (factory : Option SessionFactory) (state : State μ)
    : interceptor.Course state (interceptor.checkDeeds services made cls factory state)
        (.of ((interceptor.isEligible services cls factory).outcome state).1)
        ((interceptor.isEligible services cls factory).outcome state).2 := by
  unfold isEligible checkDeeds
  split
  · have asked := Call.Takes.run take (interceptor.mapping cls) () state
    rw [Call.outcome_map]
    simp only [Call.lend, Call.outcome_ofOutcome]
    rcases ends : ((interceptor.mapping cls).run services).outcome ((), state)
      with ⟨(cause | _ | _) | value, reached⟩
    all_goals
      rw [ends] at asked
      exact asked
  · exact .stays state _

/-- A class is found eligible only for an event of the datastore's own. -/
theorem owns_of_isEligible (interceptor : Interceptor ε μ) {cls : EntityClass}
    {factory : Option SessionFactory} {state : State μ}
    (eligible : ((interceptor.isEligible services cls factory).outcome state).1 = .ok true)
    : interceptor.owns cls factory = true := by
  unfold isEligible at eligible
  split at eligible
  · assumption
  · cases eligible

/-- A check does not fail. -/
theorem unfailing_isEligible (interceptor : Interceptor ε μ)
    (take : services.Take interceptor made) (cls : EntityClass) (factory : Option SessionFactory)
    : (interceptor.isEligible services cls factory).Unfailing := by
  intro state cause
  have asked := Call.Unfailing.run take (interceptor.mapping cls) ((), state) cause
  unfold isEligible
  split
  · rw [Call.outcome_map]
    simp only [Call.lend, Call.outcome_ofOutcome]
    rcases ends : ((interceptor.mapping cls).run services).outcome ((), state)
      with ⟨(cause | _ | _) | value, reached⟩
    · rw [ends] at asked
      intro fails
      cases fails
      exact asked rfl
    all_goals
      intro fails
      cases fails
  · intro fails
    cases fails

/-- Looking for the listener of a class ends with what is remembered, if that is anything; otherwise
the class is entered, checked and settled, and if its lock is held already that never ends.
-/
theorem outcome_findWith (interceptor : Interceptor ε μ) (services : Services ε μ)
    (cls : EntityClass) (factory : Option SessionFactory) (state : State μ)
    : (interceptor.findWith services cls factory).outcome state
      = match state.cache.decided? cls.id, state.cache.enter? cls.id with
        | some decision, _ => (.ok decision, state.mapCache Cache.countHit)
        | none, none => (.error .hung, state)
        | none, some (lock, cache) =>
            (holding lock
              (interceptor.isEligible services cls factory >>= interceptor.settle cls)).outcome
              { state with cache := cache.countCheck } := by
  rw [findWith, Call.outcome_bind, Call.outcome_get]
  cases decided : state.cache.decided? cls.id with
  | some decision =>
      simp only [Call.andThen, decided, Call.outcome_bind, Call.outcome_set, Call.outcome_pure]
  | none =>
      cases enters : state.cache.enter? cls.id with
      | none => simp only [Call.andThen, decided, enters, Call.outcome_throw]
      | some taken =>
          obtain ⟨lock, taken⟩ := taken
          -- The class is as undecided as it was before its lock was taken.
          have undecided : taken.decided? cls.id = none := by
            rw [Cache.enter?_frame enters]
            exact decided
          simp only [Call.andThen, decided, enters, Call.outcome_bind, Call.outcome_set, holding,
            Call.outcome_ofOutcome, resolve, Call.outcome_get, undecided, Call.outcome_modify]
          rfl

/-- What it comes to that a class without a listener is settled. -/
structure Settled (interceptor : Interceptor ε μ) (cls : EntityClass) (eligible : Bool)
    (before after : State μ) : Prop where
  listeners
    : ∀ id,
        after.cache.listeners.get? id
        = if id = cls.id then
            if eligible then
              some (.make before.cache.nextSerial cls interceptor.config before.clock)
            else none
          else before.cache.listeners.get? id
  triggers
    : ∀ id,
        after.cache.triggers.get? id
        = if id = cls.id then some eligible else before.cache.triggers.get? id
  nextSerial : after.cache.nextSerial = before.cache.nextSerial + eligible.toNat
  created : after.cache.created = before.cache.created + eligible.toNat
  counted : after.cache.checks = before.cache.checks ∧ after.cache.hits = before.cache.hits
  locks : after.cache.locks = before.cache.locks ∧ after.cache.latches = before.cache.latches
  elsewhere
    : after.clock = before.clock
      ∧ after.readings = before.readings
      ∧ after.memory = before.memory

/-- A class without a listener is settled as it is found to be. -/
theorem settled_of_vacant (interceptor : Interceptor ε μ) (cls : EntityClass) (eligible : Bool)
    {state : State μ} (vacant : state.cache.listeners.get? cls.id = none)
    : interceptor.Settled cls eligible state
        ((interceptor.settle cls eligible).outcome state).2 := by
  cases eligible with
  | true =>
      have enrolled : ((interceptor.settle cls true).outcome state).2
          = { state with cache := (state.cache.enrol cls interceptor.config state.clock).2 } := rfl
      rw [enrolled, Cache.enrol_of_vacant _ _ _ vacant]
      exact ⟨fun id => Table.get?_insert .., fun id => Table.get?_insert .., rfl, rfl, ⟨rfl, rfl⟩,
        ⟨rfl, rfl⟩, ⟨rfl, rfl, rfl⟩⟩
  | false =>
      refine ⟨fun id => ?_, fun id => Table.get?_insert .., rfl, rfl, ⟨rfl, rfl⟩, ⟨rfl, rfl⟩,
        ⟨rfl, rfl, rfl⟩⟩
      split
      · rename_i own
        exact own ▸ vacant
      · rfl

/-- A listener that is there after a class was settled is the one that was made for the class, or it
was there before.
-/
theorem Settled.found {interceptor : Interceptor ε μ} {cls : EntityClass} {eligible : Bool}
    {before after : State μ} (settled : interceptor.Settled cls eligible before after)
    {id : TypeId} {listener : Listener}
    (found : after.cache.listeners.get? id = some listener)
    : (id = cls.id
        ∧ eligible = true
        ∧ listener = .make before.cache.nextSerial cls interceptor.config before.clock)
      ∨ (id ≠ cls.id ∧ before.cache.listeners.get? id = some listener) := by
  rw [settled.listeners] at found
  split at found
  · split at found
    · exact Or.inl ⟨by assumption, by assumption, (Option.some.inj found).symm⟩
    · cases found
  · exact Or.inr ⟨by assumption, found⟩

theorem unfailing_findWith (interceptor : Interceptor ε μ)
    (take : services.Take interceptor made) (cls : EntityClass) (factory : Option SessionFactory)
    : (interceptor.findWith services cls factory).Unfailing := by
  intro state cause
  have decides
      : (interceptor.isEligible services cls factory >>= interceptor.settle cls).Unfailing := by
    refine .bind (interceptor.unfailing_isEligible take cls factory) ?_
    intro eligible state cause fails
    cases eligible <;> cases fails
  rw [outcome_findWith]
  split
  · intro fails
    cases fails
  · intro fails
    cases fails
  · rename_i lock cache _ _
    have unfailing := decides { state with cache := cache.countCheck } cause
    rw [holding, Call.outcome_ofOutcome]
    rcases ends : (interceptor.isEligible services cls factory >>= interceptor.settle cls).outcome
        { state with cache := cache.countCheck } with ⟨(cause | _ | _) | decision, reached⟩
    · rw [ends] at unfailing
      exact unfailing
    all_goals
      intro fails
      cases fails

/-- Looking for a listener takes one deed, if the class is decided on, and otherwise those of a
resolution.
-/
theorem course_findWith (interceptor : Interceptor ε μ) (take : services.Take interceptor made)
    (cls : EntityClass) (factory : Option SessionFactory) (state : State μ)
    : interceptor.Course state (interceptor.findDeeds services made cls factory state)
        (.of ((interceptor.findWith services cls factory).outcome state).1)
        ((interceptor.findWith services cls factory).outcome state).2 := by
  unfold findDeeds
  rw [outcome_findWith]
  cases decided : state.cache.decided? cls.id with
  | some decision => exact .hits decided
  | none =>
      cases enters : state.cache.enter? cls.id with
      | none => exact .stays state .hung
      | some taken =>
          obtain ⟨lock, taken⟩ := taken
          have checked :=
            interceptor.course_isEligible take cls factory
              { state with cache := taken.countCheck }
          have unfailing :=
            interceptor.unfailing_isEligible take cls factory
              { state with cache := taken.countCheck }
          simp only [holding, Call.outcome_ofOutcome, Call.outcome_bind, Call.andThen]
          rcases ends : (interceptor.isEligible services cls factory).outcome
              { state with cache := taken.countCheck } with ⟨(cause | _ | _) | eligible, middle⟩
          · rw [ends] at unfailing
            exact absurd rfl (unfailing cause)
          · rw [ends] at checked
            simpa only [List.append_nil] using .unwinds decided enters checked
          · rw [ends] at checked
            simpa only [List.append_nil] using .hangs decided enters checked
          · rw [ends] at checked
            cases eligible with
            | false => exact .settles decided enters checked (absurd · Bool.false_ne_true)
            | true =>
                have own := interceptor.owns_of_isEligible (congrArg Prod.fst ends)
                exact .settles decided enters checked (fun _ => own)

theorem course_evict (interceptor : Interceptor ε μ) (key : ClassKey) (state : State μ)
    : interceptor.Course state (evictDeeds key state) (.of ((evict key).outcome state).1)
        ((evict key).outcome state).2 := by
  rw [evict, Call.outcome_bind, Call.outcome_get, evictDeeds]
  simp only [Call.andThen]
  cases held : state.cache.isHeld key.id with
  | true => exact .stays state .hung
  | false => exact .evicts held

variable [Entity ε μ]

/-- An event takes the deeds of looking for its listener, and then those of its hook. -/
theorem takes_dispatchWith (interceptor : Interceptor ε μ) (take : services.Take interceptor made)
    : (interceptor.dispatchWith services).Takes interceptor
        (interceptor.dispatchDeeds services made) := by
  intro announcement state
  rw [outcome_dispatchWith, dispatchDeeds]
  cases announcement.event.entity with
  | none => exact .stays state _
  | some entity =>
      have found :=
        interceptor.course_findWith take (Entity.cls entity) announcement.event.factory state
      simp only [findForWith]
      rcases ends : (interceptor.findWith services (Entity.cls entity)
          announcement.event.factory).outcome state with ⟨(cause | _ | _) | _ | listener, reached⟩
      all_goals rw [ends] at found
      case ok.some => exact found.append (Call.Takes.deliver take listener announcement reached)
      all_goals
        simp only [List.append_nil]
        exact found

/-- However deep calls nest, they take the deeds that are listed for their depth. -/
theorem take_servicesTo (interceptor : Interceptor ε μ) (depth : Nat)
    : (interceptor.servicesTo depth).Take interceptor (interceptor.deedsTo depth) := by
  induction depth with
  | zero =>
      have hangs {α : Type} : (throw .hung : Call (State μ) α).Unfailing := by
        intro state cause fails
        cases fails
      exact ⟨⟨fun _ _ => hangs, fun _ => hangs, hangs⟩, fun _ _ state => .stays state .hung,
        fun _ state => .stays state .hung, fun state => .stays state .hung,
        fun _ state => .stays state .hung⟩
  | succ depth ih =>
      refine ⟨⟨interceptor.unfailing_findWith ih, ?_, ?_⟩, interceptor.course_findWith ih,
        interceptor.course_evict, .clears, interceptor.takes_dispatchWith ih⟩
      · intro key state cause
        show (((evict key).outcome state).1 : Except Stop Bool) ≠ .error (.failed cause)
        rw [evict, Call.outcome_bind, Call.outcome_get]
        simp only [Call.andThen]
        split
        · intro fails
          cases fails
        · intro fails
          cases fails
      · intro state cause fails
        cases fails

end Interceptor

end Lifecycle
