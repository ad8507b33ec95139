import Lifecycle.Proofs.Routing.Hooks
import Lifecycle.Scenario.ScriptedEntity

/-! Where an event goes. Every event goes to the handler of its kind, and from there to the listener
of its entity's class. What the hook answers, the listener's judgement and the cancelling of the
event all follow from the kind.
-/

namespace Lifecycle

variable {ε μ α : Type}

-----------------------------------------------------------------------------------------
-- Handlers
-----------------------------------------------------------------------------------------

namespace Interceptor

section

variable {κ : Type}

/-- What comes of a payload that is given to a handler: whether a write is to be skipped, and the
event with what has become of the payload.
-/
def outcomeOn (handler : Call (Payload ε κ × State μ) α) (skips : α → Bool)
    (rebuild : Payload ε κ → Event ε) (payload : Payload ε κ) (state : State μ)
    : Except Stop Bool × Event ε × State μ :=
  let (result, payload, state) := handler.outcome (payload, state)
  (result.map skips, rebuild payload, state)

/-- A handler that is given the payload of an announced event does what it does to the payload. -/
theorem outcome_onPayload_eq (handler : Call (Payload ε κ × State μ) Bool)
    (rebuild : Payload ε κ → Event ε) (payload : Payload ε κ) (announcement : Announcement ε)
    (state : State μ)
    : (Announcement.onPayload rebuild payload handler).outcome (announcement, state)
      = let (result, event, reached) := outcomeOn handler id rebuild payload state
        (result, { announcement with event }, reached) := by
  simp only [Announcement.onPayload, Call.outcome_ofOutcome, outcomeOn]
  rcases handler.outcome (payload, state) with ⟨stop | skipped, reached⟩ <;> rfl

theorem outcome_onPayload_passing (handler : Call (Payload ε κ × State μ) Unit)
    (rebuild : Payload ε κ → Event ε) (payload : Payload ε κ) (announcement : Announcement ε)
    (state : State μ)
    : (do
        Announcement.onPayload rebuild payload handler
        pure false : Call (Announcement ε × State μ) Bool).outcome (announcement, state)
      = let (result, event, reached) := outcomeOn handler (fun _ => false) rebuild payload state
        (result, { announcement with event }, reached) := by
  simp only [Call.outcome_bind, Announcement.onPayload, Call.outcome_ofOutcome, outcomeOn]
  rcases handler.outcome (payload, state) with ⟨stop | skipped, reached⟩ <;> rfl

end

variable [Entity ε μ]

/-- What comes of an event when the handler of its kind is called on the event's own payload. -/
def directly (interceptor : Interceptor ε μ) (services : Services ε μ)
    : Event ε → State μ → Except Stop Bool × Event ε × State μ
  | .pre write payload => outcomeOn (interceptor.onPreWith services write) id (.pre write) payload
  | .post write payload =>
      outcomeOn (interceptor.onPostWith services write) (fun _ => false) (.post write) payload
  | .preLoad payload =>
      outcomeOn (interceptor.onPreLoadWith services) (fun _ => false) .preLoad payload
  | .postLoad payload =>
      outcomeOn (interceptor.onPostLoadWith services) (fun _ => false) .postLoad payload
  | .saveOrUpdate payload =>
      outcomeOn (interceptor.onSaveOrUpdateWith services) (fun _ => false) .saveOrUpdate payload
  | .validation payload =>
      outcomeOn (interceptor.onValidationWith services) (fun _ => false) .validation payload

/-- An event is handled by the handler of its kind. -/
theorem outcome_handleWith_eq (interceptor : Interceptor ε μ) (services : Services ε μ)
    (announcement : Announcement ε) (state : State μ)
    : (interceptor.handleWith services).outcome (announcement, state)
      = let (result, event, reached) := interceptor.directly services announcement.event state
        (result, { announcement with event }, reached) := by
  rcases announcement with ⟨event, cancelled⟩
  rw [handleWith, Call.outcome_bind, Call.outcome_get]
  cases event with
  | pre write payload => exact outcome_onPayload_eq _ _ payload _ _
  | post | preLoad | postLoad | saveOrUpdate | validation =>
      exact outcome_onPayload_passing _ _ _ _ _

/-- Only the handlers of writes that are about to happen ever answer that a write is to be skipped.
-/
theorem isCancellable_of_skipped (interceptor : Interceptor ε μ) (services : Services ε μ)
    {event : Event ε} {state : State μ}
    (skipped : (interceptor.directly services event state).1 = .ok true)
    : event.kind.isCancellable = true := by
  have passes {κ : Type} {handler : Call (Payload ε κ × State μ) Unit}
      {rebuild : Payload ε κ → Event ε} {payload : Payload ε κ}
      : (outcomeOn handler (fun _ => false) rebuild payload state).1 ≠ .ok true := by
    unfold outcomeOn
    rcases handler.outcome (payload, state) with ⟨stop | answer, reached⟩
    · exact fun same => (nomatch same)
    · exact fun same => (nomatch same)
  cases event with
  | pre => rfl
  | post | preLoad | postLoad | saveOrUpdate | validation => exact absurd skipped passes

/-- An event is dispatched by its handler, and cancelled if that answers that a write is to be
skipped.
-/
theorem outcome_dispatchWith_eq (interceptor : Interceptor ε μ) (services : Services ε μ)
    (announcement : Announcement ε) (state : State μ)
    : (interceptor.dispatchWith services).outcome (announcement, state)
      = let (result, event, reached) := interceptor.directly services announcement.event state
        (result.map (fun _ => ()),
          ⟨event, announcement.cancelled || result.toOption.any id⟩, reached) := by
  rw [dispatchWith, Call.outcome_bind, outcome_handleWith_eq]
  rcases interceptor.directly services announcement.event state
    with ⟨stop | _ | _, event, reached⟩
  · simp [Call.andThen, Except.map, Except.toOption]
  · simp [Call.andThen, Except.map, Except.toOption]
  · simp [Call.andThen, Except.map, Except.toOption, Announcement.cancel]

/-- If the class of an event's entity is found to have a listener, the handler lets the listener
attend to the entity.
-/
theorem directly_of_listener (interceptor : Interceptor ε μ) (services : Services ε μ)
    {event : Event ε} {state reached : State μ} {entity : ε} {listener : Listener}
    (carried : event.entity = some entity)
    (finds
      : (interceptor.findForWith services event.entity event.factory).outcome state
        = (.ok (some listener), reached))
    : interceptor.directly services event state
      = let (result, last, after) := (listener.attend services event).outcome (entity, reached)
        (result, event.map (fun _ => last), after) := by
  have handles := interceptor.outcome_handleWith_eq services ⟨event, false⟩ state
  rw [outcome_handleWith, finds, resume, listener.outcome_react] at handles
  simp only [carried] at handles
  obtain ⟨same, others⟩ := Prod.mk.inj handles
  obtain ⟨events, states⟩ := Prod.mk.inj others
  exact Prod.ext same.symm (Prod.ext (congrArg Announcement.event events).symm states.symm)

section

variable {interceptor : Interceptor ε μ} {services : Services ε μ} {event : Event ε}
  {state reached : State μ} {last : ε × State μ} {entity : ε} {listener : Listener}

/-- The failure of a hook is that of the handler. -/
theorem directly_of_error {cause : Failure} (carried : event.entity = some entity)
    (finds
      : (interceptor.findForWith services event.entity event.factory).outcome state
        = (.ok (some listener), reached))
    (fails
      : ((event.callback entity).run services).outcome (entity, reached)
        = (.ok (.error cause), last))
    : (interceptor.directly services event state).1 = .error (.failed cause) := by
  rw [interceptor.directly_of_listener services carried finds,
    listener.attend_of_error services event fails]

/-- If a hook answers, the handler answers what the listener makes of that. -/
theorem directly_of_decision {decision : Decision} (carried : event.entity = some entity)
    (finds
      : (interceptor.findForWith services event.entity event.factory).outcome state
        = (.ok (some listener), reached))
    (decides
      : ((event.callback entity).run services).outcome (entity, reached)
        = (.ok (.ok decision), last))
    : ∃ left,
        (interceptor.directly services event state).2.1.entity = some left
        ∧ (interceptor.directly services event state).1
          = if event.kind.isJudged && !decision.isVeto then
              (listener.judgement left).mapError .failed
            else .ok (event.kind.isCancellable && decision.isVeto) := by
  rw [interceptor.directly_of_listener services carried finds,
    listener.attend_of_decision services event decides]
  refine ⟨((listener.after event decision).outcome last).2.1, ?_,
    listener.after_eq event decision last⟩
  exact (event.entity_map _).trans (congrArg (Option.map _) carried)

end

-----------------------------------------------------------------------------------------
-- Every event
-----------------------------------------------------------------------------------------

/-- Every event goes where it belongs. Whatever the mapping and the hooks do, and whether or not the
event is cancelled already: the hook of the event's kind is called once, and no other, if there is
an entity whose class is found to have a listener; otherwise no hook is called at all, and never
when an entity is saved. (Recording shows which hooks are called, and changes nothing else.) The
event ends as the handler of its kind does when that is called on the event's payload. If the
handler fails the event stays as cancelled as it was; otherwise it is cancelled from then on if it
was so before, or if it is announced before a write and the handler answers that the write is to be
skipped, which no other handler does. The handler fails with the failure of the hook, or else with
that of the judgement on what has become of the entity, and with no other.
-/
theorem dispatch_routes (interceptor : Interceptor ε μ) (depth : Nat)
    (announcement : Announcement ε) (state : State μ)
    : let services := interceptor.servicesTo depth
      let event := announcement.event
      let found := (interceptor.findForWith services event.entity event.factory).outcome state
      let handled := interceptor.directly services event state
      let dispatched := (interceptor.dispatchWith services).outcome (announcement, state)
      let recorded :=
        (interceptor.recorded.dispatchWith (interceptor.recorded.servicesTo depth)).outcome
          (announcement.map Recorded.of, state)
      (recorded.1 = dispatched.1
        ∧ recorded.2.1.map Recorded.entity = dispatched.2.1
        ∧ recorded.2.2 = dispatched.2.2)
      ∧ (∀ entity listener,
          event.entity = some entity
          → found.1 = .ok (some listener)
          → recorded.2.1.event.called = event.kind.hook?.toList)
      ∧ (event.entity = none ∨ (∀ listener, found.1 ≠ .ok (some listener))
          → recorded.2.1.event.called = [])
      ∧ (dispatched.1 = handled.1.map (fun _ => ())
        ∧ dispatched.2.1.event = handled.2.1
        ∧ dispatched.2.2 = handled.2.2)
      ∧ (∀ skipped,
          handled.1 = .ok skipped
          → dispatched.2.1.cancelled
            = (announcement.cancelled || (event.kind.isCancellable && skipped)))
      ∧ (∀ stop, handled.1 = .error stop → dispatched.2.1.cancelled = announcement.cancelled)
      ∧ (handled.1 = .ok true → event.kind.isCancellable = true)
      ∧ ∀ entity listener,
          event.entity = some entity
          → found.1 = .ok (some listener)
          → let answered := ((event.callback entity).run services).outcome (entity, found.2)
            (∀ cause, answered.1 = .ok (.error cause) → dispatched.1 = .error (.failed cause))
            ∧ ∀ decision,
                answered.1 = .ok (.ok decision)
                → ∃ last,
                    dispatched.2.1.event.entity = some last
                    ∧ handled.1
                      = if event.kind.isJudged && !decision.isVeto then
                          (listener.judgement last).mapError .failed
                        else .ok (event.kind.isCancellable && decision.isVeto) := by
  intro services event found handled dispatched recorded
  have handles
      : dispatched
        = (handled.1.map (fun _ => ()),
            ⟨handled.2.1, announcement.cancelled || handled.1.toOption.any id⟩, handled.2.2) :=
    interceptor.outcome_dispatchWith_eq services announcement state
  refine ⟨interceptor.outcome_dispatchWith_recorded depth announcement state, ?_,
    interceptor.called_recorded_of_unheard depth announcement state, ?_, ?_, ?_,
    interceptor.isCancellable_of_skipped services, ?_⟩
  · intro entity listener carried finds
    exact interceptor.called_recorded_of_listener depth announcement state finds
  · rw [handles]
    exact ⟨rfl, rfl, rfl⟩
  · intro skipped answers
    rw [handles, answers]
    cases skipped with
    | false => simp [Except.toOption]
    | true =>
        have cancellable := interceptor.isCancellable_of_skipped services answers
        simp [Except.toOption, event, cancellable]
  · intro stop stops
    rw [handles, stops]
    exact Bool.or_false _
  · intro entity listener carried finds answered
    have found_eq : found = (.ok (some listener), found.2) := Prod.ext finds rfl
    constructor
    · intro cause fails
      have failed : handled.1 = .error (.failed cause) :=
        directly_of_error carried found_eq (Prod.ext fails rfl)
      rw [handles, failed]
      rfl
    · intro decision decides
      rw [handles]
      exact directly_of_decision carried found_eq (Prod.ext decides rfl)

end Interceptor

namespace Scenario

/-- The interceptor of a warehouse that maps everything. -/
def warehouse : Interceptor (ScriptedEntity Unit) Memory where
  home := ⟨0, "main"⟩
  config := default
  mapping _ := .done true
  nesting := 1

/-- A crate that vetoes whatever it is asked for is about to be inserted. -/
def insertCrate : Announcement (ScriptedEntity Unit) :=
  .of (.pre .insert
    ⟨some { ScriptedEntity.ofType ⟨⟨3, "depot::Crate"⟩, .fixed false, false⟩ with
        hooks := fun _ => [.veto] },
      ⟨"Crate", warehouse.home⟩⟩)

/-- The hook before inserts is called on the crate, no other is, and the insert is cancelled. -/
theorem dispatch_routes_warehouse
    : let state : State Memory := .initial (.fixed 0 0) .empty
      ((warehouse.recorded.dispatchWith (warehouse.recorded.servicesTo 1)).outcome
          (insertCrate.map Recorded.of, state)).2.1.event.called
        = [.before .insert]
      ∧ ((warehouse.dispatchWith (warehouse.servicesTo 1)).outcome
          (insertCrate, state)).2.1.cancelled = true := by
  intro state
  obtain ⟨-, called, -, -, cancelled, -⟩ := warehouse.dispatch_routes 1 insertCrate state
  constructor
  · exact called _ ⟨0, ⟨⟨3, "depot::Crate"⟩, false⟩, false, .fixed 0 0⟩ rfl rfl
  · exact cancelled true rfl

end Scenario

end Lifecycle
