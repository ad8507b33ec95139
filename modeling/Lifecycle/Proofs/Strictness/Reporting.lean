import Lifecycle.Proofs.Strictness.Rejections

/-! An interceptor made stricter. It gives classes the same listeners, but for their strictness, and
deals with events alike, but for the way in which it tells of a rejected write.
-/

namespace Lifecycle

variable {ε μ : Type} [Entity ε μ]

namespace Interceptor

/-- The interceptor with another configuration. -/
def harden (interceptor : Interceptor ε μ) (config : Config) : Interceptor ε μ :=
  { interceptor with config }

variable {interceptor : Interceptor ε μ} {config : Config} {veil : μ → μ}
  {services services' : Services ε μ} {within within' : Chronicles ε μ} {made : Deeds ε μ}

-----------------------------------------------------------------------------------------
-- Resolutions
-----------------------------------------------------------------------------------------

omit [Entity ε μ] in
theorem settle_harden (lenient : interceptor.config = default) (cls : EntityClass) (eligible : Bool)
    (state : State μ)
    : ((interceptor.harden config).settle cls eligible).outcome (state.harden config veil)
      = (((interceptor.settle cls eligible).outcome state).1.map
          (Option.map (Listener.harden config)),
        ((interceptor.settle cls eligible).outcome state).2.harden config veil) := by
  cases eligible with
  | false => rfl
  | true =>
      have enrols (interceptor : Interceptor ε μ) (state : State μ)
          : (interceptor.settle cls true).outcome state
            = (.ok (some (state.cache.enrol cls interceptor.config state.clock).1),
              { state with
                cache := (state.cache.enrol cls interceptor.config state.clock).2 }) := rfl
      have enrolled := state.cache.enrol_harden config cls state.clock
      rw [enrols, enrols, lenient]
      show (Except.ok (some ((state.cache.harden config).enrol cls config state.clock).1),
          { state.harden config veil with
            cache := ((state.cache.harden config).enrol cls config state.clock).2 }) = _
      rw [enrolled]
      rfl

theorem isEligible_harden
    (harden : services.Harden interceptor config veil services' within within')
    (take : services.Take interceptor made) (unaware : interceptor.Unaware config veil)
    (cls : EntityClass) (factory : Option SessionFactory) {state : State μ}
    (tidy : interceptor.Tidy state)
    : let checked := (interceptor.isEligible services cls factory).outcome state
      ((interceptor.harden config).isEligible services' cls factory).outcome
          (state.harden config veil)
        = (checked.1, checked.2.harden config veil)
      ∧ (interceptor.harden config).checkChronicle services' within' cls factory
          (state.harden config veil)
        = interceptor.checkChronicle services within cls factory state := by
  obtain ⟨asked, same, -⟩ := harden.run take (unaware.mapping cls) () state tidy
  have asked := asked.eq
  unfold checkChronicle
  have owns : (interceptor.harden config).owns cls factory = interceptor.owns cls factory := rfl
  rw [owns]
  cases own : interceptor.owns cls factory with
  | false =>
      rw [interceptor.outcome_isEligible_of_not_owns services own,
        (interceptor.harden config).outcome_isEligible_of_not_owns services' own]
      exact ⟨rfl, rfl⟩
  | true =>
      rw [interceptor.outcome_isEligible_of_owns services own,
        (interceptor.harden config).outcome_isEligible_of_owns services' own]
      have mapping : (interceptor.harden config).mapping = interceptor.mapping := rfl
      rw [mapping, asked, same]
      generalize ((interceptor.mapping cls).run services).outcome ((), state) = outcome
      rcases outcome with ⟨stop | mapped, reached⟩
      · exact ⟨rfl, rfl⟩
      · exact ⟨rfl, rfl⟩

/-- Looking for a listener gives the one that the configuration would have, and the same happens on
the way.
-/
theorem findWith_harden (lenient : interceptor.config = default)
    (harden : services.Harden interceptor config veil services' within within')
    (take : services.Take interceptor made) (unaware : interceptor.Unaware config veil)
    (cls : EntityClass) (factory : Option SessionFactory) {state : State μ}
    (tidy : interceptor.Tidy state)
    : let found := (interceptor.findWith services cls factory).outcome state
      ((interceptor.harden config).findWith services' cls factory).outcome
          (state.harden config veil)
        = (found.1.map (Option.map (Listener.harden config)), found.2.harden config veil)
      ∧ (interceptor.harden config).findChronicle services' within' cls factory
          (state.harden config veil)
        = interceptor.findChronicle services within cls factory state := by
  rw [outcome_findWith, outcome_findWith]
  unfold findChronicle
  have decided
      : (state.harden config veil).cache.decided? cls.id
        = (state.cache.decided? cls.id).map (Option.map (Listener.harden config)) :=
    state.cache.decided?_harden config cls.id
  have entered
      : (state.harden config veil).cache.enter? cls.id
        = (state.cache.enter? cls.id).map (Prod.map id (Cache.harden config)) :=
    state.cache.enter?_harden config cls.id
  rw [decided, entered]
  cases undecided : state.cache.decided? cls.id with
  | some decision => exact ⟨rfl, rfl⟩
  | none =>
      cases enters : state.cache.enter? cls.id with
      | none => exact ⟨rfl, rfl⟩
      | some taken =>
          obtain ⟨lock, taken⟩ := taken
          obtain ⟨checks, same⟩ :=
            interceptor.isEligible_harden harden take unaware cls factory
              (tidy.enter undecided enters)
          refine ⟨?_, congrArg (List.cons _) same⟩
          show (holding lock _).outcome
            (({ state with cache := taken.countCheck } : State μ).harden config veil) = _
          simp only [holding, Call.outcome_ofOutcome, Call.outcome_bind]
          rw [checks]
          rcases (interceptor.isEligible services cls factory).outcome
            { state with cache := taken.countCheck } with ⟨(cause | _ | _) | eligible, middle⟩
          · exact rfl
          · exact rfl
          · exact rfl
          · -- The class is settled only if the check comes back with an answer.
            simp only [Call.andThen]
            rw [settle_harden lenient]
            rcases (interceptor.settle cls eligible).outcome middle
              with ⟨(cause | _ | _) | found, settled⟩ <;> exact rfl

omit [Entity ε μ] in
theorem evict_harden (config : Config) (veil : μ → μ) (key : ClassKey) (state : State μ)
    : (evict key).outcome (state.harden config veil)
        = (((evict key).outcome state).1, ((evict key).outcome state).2.harden config veil)
      ∧ evictChronicle (ε := ε) key (state.harden config veil) = evictChronicle key state := by
  have held : (state.harden config veil).cache.isHeld key.id = state.cache.isHeld key.id := rfl
  have forgets
      : (state.harden config veil).mapCache (·.forget key.id)
        = (state.mapCache (·.forget key.id)).harden config veil :=
    congrArg (fun cache => State.mk cache state.clock state.readings (veil state.memory))
      (state.cache.forget_harden config key.id).symm
  have mentions
      : (state.harden config veil).cache.mentions key.id = state.cache.mentions key.id :=
    state.cache.mentions_harden config key.id
  have dropped
      : ((state.harden config veil).cache.listeners.get? key.id).isSome
        = (state.cache.listeners.get? key.id).isSome := by
    rw [State.harden, Cache.harden, Table.get?_map, Option.isSome_map]
  rw [evict, Call.outcome_bind, Call.outcome_bind, Call.outcome_get, Call.outcome_get,
    evictChronicle, evictChronicle, held, dropped]
  simp only [Call.andThen, held, forgets, mentions]
  refine ⟨?_, trivial⟩
  cases state.cache.isHeld key.id <;> exact rfl

omit [Entity ε μ] in
theorem clear_harden (config : Config) (veil : μ → μ) (state : State μ)
    : (clear : Call (State μ) Unit).outcome (state.harden config veil)
        = ((clear.outcome state).1, (clear.outcome state).2.harden config veil)
      ∧ clearChronicle (ε := ε) (state.harden config veil) = clearChronicle state := by
  refine ⟨rfl, ?_⟩
  rw [clearChronicle, clearChronicle, State.harden, Cache.harden, Table.size_map]

/-- How a dispatch ends in a rejection, if it does: by the listener that attends to the entity, and
for which errors.
-/
def rejectionWith (interceptor : Interceptor ε μ) (services : Services ε μ)
    (announcement : Announcement ε) (state : State μ)
    : Option (Listener × List String) :=
  match announcement.event.entity with
  | none => none
  | some entity =>
      let event := announcement.event
      match (interceptor.findWith services (Entity.cls entity) event.factory).outcome state with
      | (.ok (some listener), reached) =>
          (listener.rejection? services event (entity, reached)).map (listener, ·)
      | _ => none

/-- Dispatching an event leaves the same of the entity and of everything else, and the same happens
on the way. A rejected write is reported if the configuration covers the class of the listener;
otherwise the event ends the same and is cancelled if it is with a lenient interceptor.
-/
theorem dispatchWith_harden (lenient : interceptor.config = default)
    (harden : services.Harden interceptor config veil services' within within')
    (take : services.Take interceptor made) (unaware : interceptor.Unaware config veil)
    (announcement : Announcement ε) {state : State μ} (tidy : interceptor.Tidy state)
    : let outcome := (interceptor.dispatchWith services).outcome (announcement, state)
      let outcome' :=
        ((interceptor.harden config).dispatchWith services').outcome
          (announcement, state.harden config veil)
      outcome'.2.2 = outcome.2.2.harden config veil
      ∧ outcome'.2.1.event = outcome.2.1.event
      ∧ (match interceptor.rejectionWith services announcement state with
        | none => outcome'.1 = outcome.1 ∧ outcome'.2.1.cancelled = outcome.2.1.cancelled
        | some (listener, errors) =>
            outcome.1 = .ok ()
            ∧ outcome.2.1.cancelled = true
            ∧ if config.covers listener.cls then
                outcome'.1 = .error (.failed (.validation listener.cls.name errors))
                ∧ outcome'.2.1.cancelled = announcement.cancelled
              else outcome'.1 = .ok () ∧ outcome'.2.1.cancelled = true) := by
  unfold rejectionWith
  cases carried : announcement.event.entity with
  | none =>
      rw [interceptor.outcome_dispatchWith_of_none services carried,
        (interceptor.harden config).outcome_dispatchWith_of_none services' carried]
      exact ⟨rfl, rfl, rfl, rfl⟩
  | some entity =>
      obtain ⟨finds, -⟩ :=
        interceptor.findWith_harden lenient harden take unaware (Entity.cls entity)
          announcement.event.factory tidy
      rw [interceptor.outcome_dispatchWith_of_entity services carried,
        (interceptor.harden config).outcome_dispatchWith_of_entity services' carried, finds]
      have reaches := (interceptor.course_findWith take (Entity.cls entity)
        announcement.event.factory state).tidy tidy
      dsimp only
      rcases found : (interceptor.findWith services (Entity.cls entity)
          announcement.event.factory).outcome state with ⟨stop | _ | listener, reached⟩
      · exact ⟨rfl, rfl, rfl, rfl⟩
      · exact ⟨rfl, rfl, rfl, rfl⟩
      · rw [found] at reaches
        obtain ⟨-, strictness, -⟩ := interceptor.made_of_findWith found reaches
        have relaxed : listener.failOnError = false := by
          rw [strictness, lenient]
          rfl
        obtain ⟨left, judged⟩ :=
          listener.attend_harden harden take unaware relaxed announcement.event entity reaches
        simp only [Except.map, Option.map_some, Announcement.finish]
        generalize (listener.attend services announcement.event).outcome (entity, reached)
          = attended at left judged ⊢
        generalize ((listener.harden config).attend services' announcement.event).outcome
          (entity, reached.harden config veil) = attended' at left judged ⊢
        obtain ⟨result, last, final⟩ := attended
        obtain ⟨result', last', final'⟩ := attended'
        cases left
        refine ⟨rfl, rfl, ?_⟩
        cases rejected : listener.rejection? services announcement.event (entity, reached) with
        | none =>
            rw [rejected] at judged
            obtain rfl : result' = result := judged
            exact ⟨rfl, rfl⟩
        | some errors =>
            rw [rejected] at judged
            obtain ⟨skips, reports⟩ := judged
            obtain rfl : result = .ok true := skips
            obtain rfl := show result' = _ from reports
            rw [Option.map_some]
            refine ⟨rfl, Bool.or_true _, ?_⟩
            cases covers : config.covers listener.cls with
            | false => exact ⟨rfl, Bool.or_true _⟩
            | true => exact ⟨rfl, Bool.or_false _⟩

/-- What becomes of an event with both is the same, or it is a rejected write that is cancelled with
the one and reported by the other.
-/
theorem reported_dispatchWith (lenient : interceptor.config = default)
    (harden : services.Harden interceptor config veil services' within within')
    (take : services.Take interceptor made) (unaware : interceptor.Unaware config veil)
    (announcement : Announcement ε) {state : State μ} (tidy : interceptor.Tidy state)
    : Reported config veil ((interceptor.dispatchWith services).outcome (announcement, state))
        (((interceptor.harden config).dispatchWith services').outcome
          (announcement, state.harden config veil)) := by
  obtain ⟨final, event, ends⟩ :=
    interceptor.dispatchWith_harden lenient harden take unaware announcement tidy
  generalize (interceptor.dispatchWith services).outcome (announcement, state) = outcome
    at final event ends ⊢
  generalize ((interceptor.harden config).dispatchWith services').outcome
    (announcement, state.harden config veil) = outcome' at final event ends ⊢
  obtain ⟨result, ⟨left, cancelled⟩, reached⟩ := outcome
  obtain ⟨result', ⟨left', cancelled'⟩, reached'⟩ := outcome'
  cases final
  cases event
  dsimp only at ends
  split at ends
  · obtain ⟨rfl, rfl⟩ := ends
    exact .alike _ _ _
  · obtain ⟨rfl, rfl, reports⟩ := ends
    split at reports
    · obtain ⟨rfl, -⟩ := reports
      exact .rejected _ _ ⟨left, cancelled'⟩ reached
    · obtain ⟨rfl, rfl⟩ := reports
      exact .alike _ _ _

/-- Until the stamp of an event is due the same happens, and it is due to the same entity. -/
theorem lead_harden (lenient : interceptor.config = default)
    (harden : services.Harden interceptor config veil services' within within')
    (take : services.Take interceptor made) (unaware : interceptor.Unaware config veil)
    (announcement : Announcement ε) {state : State μ} (tidy : interceptor.Tidy state)
    : (interceptor.harden config).leadChronicle services' within' announcement
          (state.harden config veil)
        = interceptor.leadChronicle services within announcement state
      ∧ ((interceptor.harden config).dueWith services' announcement (state.harden config veil)).1
        = (interceptor.dueWith services announcement state).1 := by
  unfold leadChronicle dueWith
  cases announcement.event.entity with
  | none => exact ⟨rfl, rfl⟩
  | some entity =>
      obtain ⟨finds, same⟩ :=
        interceptor.findWith_harden lenient harden take unaware (Entity.cls entity)
          announcement.event.factory tidy
      have reaches := (interceptor.course_findWith take (Entity.cls entity)
        announcement.event.factory state).tidy tidy
      dsimp only
      rw [finds, same]
      rcases found : (interceptor.findWith services (Entity.cls entity)
          announcement.event.factory).outcome state with ⟨stop | _ | listener, reached⟩
      · exact ⟨rfl, rfl⟩
      · exact ⟨rfl, rfl⟩
      · rw [found] at reaches
        obtain ⟨hooks, told, -⟩ :=
          harden.run take (unaware.callback announcement.event entity) entity reached reaches
        have hooks := hooks.eq
        have due
            : announcement.event.isDue services' (entity, reached.harden config veil)
              = announcement.event.isDue services (entity, reached) := by
          unfold Event.isDue
          rw [hooks]
          generalize ((announcement.event.callback entity).run services).outcome (entity, reached)
            = outcome
          rcases outcome with ⟨stop | cause | decision, hooked, final⟩ <;> rfl
        simp only [Except.map, Option.map_some]
        rw [due, told, hooks]
        exact ⟨rfl, rfl⟩

/-- The same happens in the course of an event. -/
theorem dispatchChronicle_harden (lenient : interceptor.config = default)
    (harden : services.Harden interceptor config veil services' within within')
    (take : services.Take interceptor made) (unaware : interceptor.Unaware config veil)
    (announcement : Announcement ε) {state : State μ} (tidy : interceptor.Tidy state)
    : (interceptor.harden config).dispatchChronicle services' within' announcement
          (state.harden config veil)
        = interceptor.dispatchChronicle services within announcement state := by
  obtain ⟨leads, due⟩ := interceptor.lead_harden lenient harden take unaware announcement tidy
  obtain ⟨-, event, -⟩ :=
    interceptor.dispatchWith_harden lenient harden take unaware announcement tidy
  rw [dispatchChronicle, dispatchChronicle, leads, due, event]

-----------------------------------------------------------------------------------------
-- Nested calls, inputs and runs
-----------------------------------------------------------------------------------------

/-- However deep calls nest, the stricter interceptor answers them as told. -/
theorem harden_servicesTo (lenient : interceptor.config = default)
    (unaware : interceptor.Unaware config veil) (depth : Nat)
    : (interceptor.servicesTo depth).Harden interceptor config veil
        ((interceptor.harden config).servicesTo depth) (interceptor.chroniclesTo depth)
        ((interceptor.harden config).chroniclesTo depth) := by
  induction depth with
  | zero =>
      exact ⟨fun _ _ _ _ => ⟨rfl, rfl⟩, fun _ _ => ⟨rfl, rfl⟩, fun _ => ⟨rfl, rfl⟩,
        fun announcement state _ => ⟨.alike (.error .hung) announcement state, rfl⟩⟩
  | succ depth ih =>
      have take := interceptor.take_servicesTo depth
      constructor
      · exact fun cls factory state tidy =>
          interceptor.findWith_harden lenient ih take unaware cls factory tidy
      · exact evict_harden config veil
      · exact clear_harden config veil
      · exact fun announcement state tidy =>
          ⟨interceptor.reported_dispatchWith lenient ih take unaware announcement tidy,
            interceptor.dispatchChronicle_harden lenient ih take unaware announcement tidy⟩

end Interceptor

end Lifecycle
