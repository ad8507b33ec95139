import Lifecycle.Proofs.Chronicle.Unfolding

/-! The calls of an interceptor unfold as they are written down, at every depth. What a listener
reads is the interceptor's clock, since a listener that is found has the clock of the interceptor
and no call replaces it.
-/

namespace Lifecycle

variable {ε μ : Type}

namespace Cache

/-- A class that is decided on has its listener in the cache, if it has one. -/
theorem get?_of_decided {cache : Cache} {id : TypeId} {listener : Listener}
    (decided : cache.decided? id = some (some listener))
    : cache.listeners.get? id = some listener := by
  unfold decided? at decided
  cases found : cache.listeners.get? id with
  | some earlier =>
      rw [found] at decided
      exact Option.some.inj decided
  | none =>
      rw [found] at decided
      dsimp only at decided
      split at decided <;> cases decided

/-- The listener that a class is given is kept. -/
theorem get?_enrol (cache : Cache) (cls : EntityClass) (config : Config) (clock : Clock)
    : (cache.enrol cls config clock).2.listeners.get? cls.id
      = some (cache.enrol cls config clock).1 := by
  cases found : cache.listeners.get? cls.id with
  | none =>
      rw [cache.enrol_of_vacant config clock found]
      exact (Table.get?_insert ..).trans (if_pos rfl)
  | some earlier =>
      rw [cache.enrol_of_occupied config clock found]
      exact found

end Cache

-----------------------------------------------------------------------------------------
-- Calls that unfold as they are written down
-----------------------------------------------------------------------------------------

variable [Entity ε μ]

/-- From a state in order a call does what is written down of it, and ends as told. -/
def Call.Follows {σ α : Type} (interceptor : Interceptor ε μ) (call : Call (σ × State μ) α)
    (chronicle : σ → State μ → List (Occurrence ε)) : Prop :=
  ∀ start state,
    interceptor.Tidy state
    → interceptor.Unfolds state (chronicle start state) (.of (call.outcome (start, state)).1)
        (call.outcome (start, state)).2.2

/-- What is answered to the calls of a script is done as it is written down. -/
structure Services.Follow (services : Services ε μ) (interceptor : Interceptor ε μ)
    (within : Chronicles ε μ) : Prop where
  find
    : ∀ cls factory state,
        interceptor.Tidy state
        → interceptor.Unfolds state (within.find cls factory state)
            (.of ((services.find cls factory).outcome state).1)
            ((services.find cls factory).outcome state).2
  evict
    : ∀ key state,
        interceptor.Tidy state
        → interceptor.Unfolds state (within.evict key state)
            (.of ((services.evict key).outcome state).1) ((services.evict key).outcome state).2
  clear
    : ∀ state,
        interceptor.Tidy state
        → interceptor.Unfolds state (within.clear state) (.of (services.clear.outcome state).1)
            (services.clear.outcome state).2
  dispatch : services.dispatch.Follows interceptor within.dispatch

/-- Occurrences tell how a state in order changes. -/
theorem Interceptor.tells_unfolds (interceptor : Interceptor ε μ)
    : Tells (fun before happened ending reached =>
          interceptor.Tidy before → interceptor.Unfolds before happened ending reached)
        (fun _ _ => []) where
  stays state ending _ := .stays state ending
  accesses state memory _ := .remembers state memory
  append first rest tidy := (first tidy).append (rest ((first tidy).tidy tidy))

/-- A script does what its calls do, and changes its own memory in between. -/
theorem Call.Follows.run {own α : Type} {interceptor : Interceptor ε μ} {services : Services ε μ}
    {within : Chronicles ε μ} (follow : services.Follow interceptor within)
    (script : Script ε μ own α)
    : (script.run services).Follows interceptor (script.chronicle services within) :=
  interceptor.tells_unfolds.run ⟨follow.find, follow.evict, follow.clear, follow.dispatch⟩ script

namespace Interceptor

variable {interceptor : Interceptor ε μ} {services : Services ε μ} {within : Chronicles ε μ}
  {made : Deeds ε μ}

omit [Entity ε μ] in
/-- Settling a class leaves the clock to be. -/
theorem clock_settle (interceptor : Interceptor ε μ) (cls : EntityClass) (eligible : Bool)
    (state : State μ)
    : ((interceptor.settle cls eligible).outcome state).2.clock = state.clock := by
  cases eligible <;> rfl

omit [Entity ε μ] in
/-- Settling a class reads no clock. -/
theorem readings_settle (interceptor : Interceptor ε μ) (cls : EntityClass) (eligible : Bool)
    (state : State μ)
    : ((interceptor.settle cls eligible).outcome state).2.readings = state.readings := by
  cases eligible <;> rfl

/-- No call replaces the clock. -/
theorem Unfolds.clock_eq {before reached : State μ} {happened : List (Occurrence ε)}
    {ending : Ending} (unfolds : interceptor.Unfolds before happened ending reached)
    : reached.clock = before.clock := by
  induction unfolds with
  | append first rest ih ih' => exact ih'.trans ih
  | declines => exact interceptor.clock_settle _ _ _
  | settles undecided enters own asked ih => exact (interceptor.clock_settle _ _ _).trans ih
  | unwinds undecided enters asked ih | hangs undecided enters asked ih => exact ih
  | stays | remembers | hits | blocked | evicts | clears | calls | stamps => rfl

omit [Entity ε μ] in
/-- The question to the mapping is what there is to a check of the datastore's own. -/
theorem outcome_isEligible_of_owns (interceptor : Interceptor ε μ) (services : Services ε μ)
    {cls : EntityClass} {factory : Option SessionFactory}
    (own : interceptor.owns cls factory = true) (state : State μ)
    : (interceptor.isEligible services cls factory).outcome state
      = ((((interceptor.mapping cls).run services).outcome ((), state)).1,
          (((interceptor.mapping cls).run services).outcome ((), state)).2.2) := by
  rw [isEligible, if_pos own, Call.outcome_map]
  simp only [Call.lend, Call.outcome_ofOutcome]
  rcases ((interceptor.mapping cls).run services).outcome ((), state)
    with ⟨stop | mapped, reached⟩ <;> rfl

omit [Entity ε μ] in
theorem outcome_isEligible_of_not_owns (interceptor : Interceptor ε μ) (services : Services ε μ)
    {cls : EntityClass} {factory : Option SessionFactory}
    (foreign : interceptor.owns cls factory = false) (state : State μ)
    : (interceptor.isEligible services cls factory).outcome state = (.ok false, state) := by
  rw [isEligible, foreign]
  rfl

omit [Entity ε μ] in
/-- A listener that is found is in the cache. -/
theorem get?_of_findWith (interceptor : Interceptor ε μ) (services : Services ε μ)
    {cls : EntityClass} {factory : Option SessionFactory} {state reached : State μ}
    {listener : Listener}
    (finds
      : (interceptor.findWith services cls factory).outcome state
        = (.ok (some listener), reached))
    : reached.cache.listeners.get? cls.id = some listener := by
  rw [outcome_findWith] at finds
  split at finds
  · rename_i decision decided
    cases finds
    exact Cache.get?_of_decided decided
  · cases finds
  · rename_i lock cache _ _
    simp only [holding, Call.outcome_ofOutcome, Call.outcome_bind] at finds
    generalize (interceptor.isEligible services cls factory).outcome
      { state with cache := cache.countCheck } = checked at finds
    rcases checked with ⟨(cause | _ | _) | eligible, middle⟩
    · cases finds
    · cases finds
    · cases finds
    · cases eligible with
      | false => cases finds
      | true =>
          cases finds
          exact middle.cache.get?_enrol cls interceptor.config middle.clock

omit [Entity ε μ] in
/-- A listener that is found is made by the rules of the interceptor. -/
theorem made_of_findWith {cls : EntityClass} {factory : Option SessionFactory}
    {state reached : State μ} {listener : Listener}
    (finds
      : (interceptor.findWith services cls factory).outcome state
        = (.ok (some listener), reached))
    (tidy : interceptor.Tidy reached)
    : listener.cls.id = cls.id
      ∧ listener.failOnError = interceptor.config.covers listener.cls
      ∧ listener.clock = reached.clock := by
  obtain ⟨filed, made, -⟩ :=
    tidy.coherent.made (interceptor.get?_of_findWith services finds)
  exact ⟨filed, congrArg Listener.failOnError made, congrArg Listener.clock made⟩

/-- Looking for a listener unfolds as it is written down. -/
theorem follows_findWith (take : services.Take interceptor made)
    (follow : services.Follow interceptor within) (cls : EntityClass)
    (factory : Option SessionFactory) (state : State μ) (tidy : interceptor.Tidy state)
    : interceptor.Unfolds state (interceptor.findChronicle services within cls factory state)
        (.of ((interceptor.findWith services cls factory).outcome state).1)
        ((interceptor.findWith services cls factory).outcome state).2 := by
  unfold findChronicle
  rw [outcome_findWith]
  cases undecided : state.cache.decided? cls.id with
  | some decision => exact .hits undecided
  | none =>
      cases enters : state.cache.enter? cls.id with
      | none => exact .blocked state cls factory
      | some taken =>
          obtain ⟨lock, taken⟩ := taken
          simp only [holding, Call.outcome_ofOutcome, Call.outcome_bind, checkChronicle]
          cases own : interceptor.owns cls factory with
          | false =>
              rw [interceptor.outcome_isEligible_of_not_owns services own]
              exact .declines undecided enters
          | true =>
              have begun := tidy.enter undecided enters
              have asked := Call.Follows.run follow (interceptor.mapping cls) () _ begun
              have unfailing := Call.Unfailing.run take (interceptor.mapping cls)
                ((), { state with cache := taken.countCheck })
              rw [interceptor.outcome_isEligible_of_owns services own]
              rcases ends : ((interceptor.mapping cls).run services).outcome
                  ((), { state with cache := taken.countCheck })
                with ⟨(cause | _ | _) | eligible, mine, middle⟩
              · rw [ends] at unfailing
                exact absurd rfl (unfailing cause)
              · rw [ends] at asked
                simp only [List.append_nil]
                exact .unwinds undecided enters asked
              · rw [ends] at asked
                simp only [List.append_nil]
                exact .hangs undecided enters asked
              · rw [ends] at asked
                cases eligible <;> exact .settles undecided enters own asked

theorem follows_evict (interceptor : Interceptor ε μ) (key : ClassKey) (state : State μ)
    : interceptor.Unfolds state (evictChronicle key state) (.of ((evict key).outcome state).1)
        ((evict key).outcome state).2 := by
  rw [evict, Call.outcome_bind, Call.outcome_get, evictChronicle]
  simp only [Call.andThen]
  cases held : state.cache.isHeld key.id with
  | true => exact .stays state .hung
  | false => exact .evicts held

end Interceptor

theorem Ending.of_map {α β : Type} (change : α → β) (result : Except Stop α)
    : Ending.of (result.map change) = .of result := by
  rcases result with (cause | _ | _) | value <;> rfl

namespace Interceptor

variable {interceptor : Interceptor ε μ} {services : Services ε μ} {within : Chronicles ε μ}
  {made : Deeds ε μ}

/-- What happens until the hook of an event has ended leads to where the stamp is due, if it is. -/
theorem follows_lead (take : services.Take interceptor made)
    (follow : services.Follow interceptor within) (announcement : Announcement ε) {state : State μ}
    (tidy : interceptor.Tidy state)
    : interceptor.Unfolds state (interceptor.leadChronicle services within announcement state)
        (.of ((interceptor.dispatchWith services).outcome (announcement, state)).1)
        (interceptor.dueWith services announcement state).2 := by
  unfold leadChronicle dueWith
  cases carried : announcement.event.entity with
  | none => exact .stays state _
  | some entity =>
      have sought := interceptor.follows_findWith take follow (Entity.cls entity)
        announcement.event.factory state tidy
      dsimp only
      rw [interceptor.outcome_dispatchWith_of_entity services carried]
      rcases finds : (interceptor.findWith services (Entity.cls entity)
          announcement.event.factory).outcome state with ⟨(cause | _ | _) | _ | listener, reached⟩
      all_goals rw [finds] at sought
      case ok.some =>
        have told
            : interceptor.Unfolds reached
                (announcement.event.kind.hook?.toList.map (Occurrence.called · entity)) .returned
                reached := by
          cases announcement.event.kind.hook? with
          | none => exact .stays reached _
          | some hook => exact .calls reached hook entity
        have hooks := Call.Follows.run follow (announcement.event.callback entity) entity reached
          (sought.tidy tidy)
        rw [← listener.ending_attend services announcement.event (entity, reached)] at hooks
        have ending
            : Ending.of (announcement.finish
                ((listener.attend services announcement.event).outcome (entity, reached))).1
              = .of ((listener.attend services announcement.event).outcome (entity, reached)).1 :=
          Ending.of_map _ _
        rw [ending]
        exact sought.append (told.append hooks)
      all_goals
        simp only [List.append_nil]
        exact sought

/-- Either nobody attends to an event, and then no stamp is due and the event stays as it is, or the
listener that is found does.
-/
theorem dispatchWith_cases (interceptor : Interceptor ε μ) (services : Services ε μ)
    (announcement : Announcement ε) (state : State μ)
    : (∃ reached,
        interceptor.dueWith services announcement state = (none, reached)
        ∧ ((interceptor.dispatchWith services).outcome (announcement, state)).2
          = (announcement, reached))
      ∨ ∃ entity listener middle,
          announcement.event.entity = some entity
          ∧ (interceptor.findWith services (Entity.cls entity) announcement.event.factory).outcome
              state
            = (.ok (some listener), middle)
          ∧ (interceptor.dispatchWith services).outcome (announcement, state)
            = announcement.finish
                ((listener.attend services announcement.event).outcome (entity, middle))
          ∧ (let hooked :=
              (((announcement.event.callback entity).run services).outcome (entity, middle)).2
            interceptor.dueWith services announcement state
            = (if announcement.event.isDue services (entity, middle) then some hooked.1 else none,
                hooked.2)) := by
  unfold dueWith
  cases carried : announcement.event.entity with
  | none =>
      rw [interceptor.outcome_dispatchWith_of_none services carried]
      exact Or.inl ⟨state, rfl, rfl⟩
  | some entity =>
      dsimp only
      rw [interceptor.outcome_dispatchWith_of_entity services carried]
      rcases finds : (interceptor.findWith services (Entity.cls entity)
          announcement.event.factory).outcome state with ⟨stop | _ | listener, middle⟩
      · exact Or.inl ⟨middle, rfl, rfl⟩
      · exact Or.inl ⟨middle, rfl, rfl⟩
      · exact Or.inr ⟨entity, listener, middle, rfl, finds, rfl, rfl⟩

/-- If a stamp is due it is filled in with one reading of the clock of the interceptor, nothing else
changes, and the event comes back.
-/
theorem stamps_of_due (take : services.Take interceptor made)
    (follow : services.Follow interceptor within) {announcement : Announcement ε}
    {state reached : State μ} {hooked : ε} (tidy : interceptor.Tidy state)
    (due : interceptor.dueWith services announcement state = (some hooked, reached))
    : ∃ change old,
        announcement.event.kind.stamping? = some change
        ∧ Entity.stamps hooked = some old
        ∧ Ending.of ((interceptor.dispatchWith services).outcome (announcement, state)).1
          = .returned
        ∧ ((interceptor.dispatchWith services).outcome (announcement, state)).2.1.event.entity
          = some (Entity.withStamps hooked
              (change (reached.clock.reading (reached.readings.count reached.clock)) old))
        ∧ ((interceptor.dispatchWith services).outcome (announcement, state)).2.2
          = { reached with readings := (reached.readings.next reached.clock).2 } := by
  rcases interceptor.dispatchWith_cases services announcement state
    with ⟨final, unheard, -⟩ | ⟨entity, listener, middle, carried, finds, dispatched, attended⟩
  · cases due.symm.trans unheard
  · obtain ⟨stamping, rfl⟩ := Prod.mk.inj (due.symm.trans attended)
    split at stamping
    · rename_i stamps
      cases stamping
      have sought := interceptor.follows_findWith take follow (Entity.cls entity)
        announcement.event.factory state tidy
      rw [finds] at sought
      have reaches := sought.tidy tidy
      obtain ⟨-, -, clock⟩ := interceptor.made_of_findWith finds reaches
      have hooks := Call.Follows.run follow (announcement.event.callback entity) entity middle
        reaches
      obtain ⟨change, old, rule, shown, returned, stamped⟩ :=
        listener.attend_of_isDue services stamps
      rw [clock, ← hooks.clock_eq] at stamped
      rw [dispatched]
      refine ⟨change, old, rule, shown, (Ending.of_map _ _).trans returned, ?_, ?_⟩
      · simp only [Announcement.finish, Event.entity_map, carried, Option.map_some, stamped]
      · exact congrArg Prod.snd stamped
    · cases stamping

/-- If no stamp is due no clock is read and nothing else changes either. -/
theorem stays_of_not_due (interceptor : Interceptor ε μ) (services : Services ε μ)
    {announcement : Announcement ε} {state reached : State μ}
    (due : interceptor.dueWith services announcement state = (none, reached))
    : ((interceptor.dispatchWith services).outcome (announcement, state)).2.2 = reached := by
  rcases interceptor.dispatchWith_cases services announcement state
    with ⟨final, unheard, stays⟩ | ⟨entity, listener, middle, -, -, dispatched, attended⟩
  · cases due.symm.trans unheard
    exact congrArg Prod.snd stays
  · obtain ⟨stamping, rfl⟩ := Prod.mk.inj (due.symm.trans attended)
    split at stamping
    · cases stamping
    · rename_i bare
      have left := listener.attend_of_not_isDue services ((Bool.not_eq_true _).mp bare)
      rw [dispatched]
      exact congrArg Prod.snd left

/-- An event unfolds as it is written down. -/
theorem follows_dispatchWith (take : services.Take interceptor made)
    (follow : services.Follow interceptor within)
    : (interceptor.dispatchWith services).Follows interceptor
        (interceptor.dispatchChronicle services within) := by
  intro announcement state tidy
  have leads := interceptor.follows_lead take follow announcement tidy
  unfold dispatchChronicle
  rcases due : interceptor.dueWith services announcement state with ⟨_ | hooked, reached⟩
  · rw [due] at leads
    rw [interceptor.stays_of_not_due services due]
    simpa using leads
  · rw [due] at leads
    obtain ⟨change, old, rule, shown, returned, left, final⟩ :=
      interceptor.stamps_of_due take follow tidy due
    rw [final, left, returned]
    rw [returned] at leads
    exact leads.append (.stamps rule shown)

/-- However deep calls nest, they unfold as it is written down for their depth. -/
theorem follow_servicesTo (interceptor : Interceptor ε μ) (depth : Nat)
    : (interceptor.servicesTo depth).Follow interceptor (interceptor.chroniclesTo depth) := by
  induction depth with
  | zero =>
      exact ⟨fun _ _ state _ => .stays state .hung, fun _ state _ => .stays state .hung,
        fun state _ => .stays state .hung, fun _ state _ => .stays state .hung⟩
  | succ depth ih =>
      have take := interceptor.take_servicesTo depth
      exact ⟨interceptor.follows_findWith take ih, fun key state _ =>
        interceptor.follows_evict key state, fun state _ => .clears state,
        interceptor.follows_dispatchWith take ih⟩

-----------------------------------------------------------------------------------------
-- Inputs
-----------------------------------------------------------------------------------------

/-- How the call of an input ends. -/
def ending (interceptor : Interceptor ε μ) (state : State μ) : Input ε μ → Ending
  | .event announcement => .of (interceptor.dispatch.outcome (announcement, state)).1
  | .operation operation => .of ((interceptor.perform operation).outcome state).1

/-- The calls of a run of inputs all end. -/
def Ends (interceptor : Interceptor ε μ) (state : State μ) : List (Input ε μ) → Prop
  | [] => True
  | input :: rest =>
      interceptor.ending state input ≠ .hung
      ∧ interceptor.Ends (interceptor.take state input) rest

/-- An input unfolds as it is written down, or it replaces the clock, or something happens to the
clocks and the memory while the interceptor is not called.
-/
theorem unfolds_take {state : State μ} (tidy : interceptor.Tidy state) (input : Input ε μ)
    : interceptor.Unfolds state (interceptor.inputChronicle state input)
        (interceptor.ending state input) (interceptor.take state input)
      ∨ (∃ clock, input = .operation (.setClock clock))
      ∨ ∃ readings memory, input = .operation (.elsewhere readings memory) := by
  have follow := interceptor.follow_servicesTo (interceptor.nesting + 1)
  cases input with
  | event announcement => exact Or.inl (follow.dispatch announcement state tidy)
  | operation operation =>
      cases operation with
      | find cls factory =>
          cases cls with
          | none => exact Or.inl (.stays state _)
          | some cls =>
              have sought := follow.find cls factory state tidy
              rw [ending, take, perform, Call.outcome_map, Ending.of_map]
              exact Or.inl sought
      | evict key =>
          have evicted := follow.evict key state tidy
          rw [ending, take, perform, Call.outcome_map, Ending.of_map]
          exact Or.inl evicted
      | clear => exact Or.inl (.clears state)
      | setClock clock => exact Or.inr (Or.inl ⟨clock, rfl⟩)
      | elsewhere readings memory => exact Or.inr (Or.inr ⟨readings, memory, rfl⟩)

end Interceptor

end Lifecycle
