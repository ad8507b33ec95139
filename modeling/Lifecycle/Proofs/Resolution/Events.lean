import Lifecycle.Proofs.Resolution.Deciders

/-! What an event does to an interceptor. It asks for the listener of its entity's class; without
one nothing more happens, and with one everything else is up to the listener and the hook.
-/

namespace Lifecycle

variable {ε μ : Type} [Entity ε μ]

namespace Event

/-- The factory for which an event asks for a listener. A validation belongs to none. -/
def factory : Event ε → Option SessionFactory
  | .pre _ payload | .post _ payload | .preLoad payload | .postLoad payload =>
      some payload.origin.factory
  | .saveOrUpdate payload => some payload.origin.factory
  | .validation _ => none

def request (event : Event ε) : Operation μ := .find (event.entity.map Entity.cls) event.factory

end Event

/-- A listener reacts to an event, and the event is cancelled if a write is to be skipped. -/
def Listener.deliver (listener : Listener) (services : Services ε μ)
    : Call (Announcement ε × State μ) Unit := do
  if ← listener.react services then
    modify (fun (announcement, state) => (announcement.cancel, state))

/-- What a listener makes of the errors that an entity reports of itself. -/
def Listener.judgement (listener : Listener) (entity : ε) : Except Failure Bool :=
  let errors := Entity.validationErrors entity
  if !Entity.autoValidate entity || errors.isEmpty then .ok false
  else if listener.failOnError then .error (.validation listener.cls.name errors)
  else .ok true

theorem Listener.outcome_judge (listener : Listener) (start : ε × State μ)
    : listener.judge.outcome start
      = (Call.answer (listener.judgement start.1)).outcome start := by
  rw [judge, Call.outcome_bind, Call.outcome_get, judgement]
  dsimp only [Call.andThen]
  split
  · rfl
  · split <;> rfl

namespace Interceptor

variable {κ α : Type}

/-- What is left to do once the listener of an event is looked for. -/
def resume (ignored : α) (reaction : Listener → Call (Announcement ε × State μ) α)
    (announcement : Announcement ε)
    : Except Stop (Option Listener) × State μ → Except Stop α × Announcement ε × State μ
  | (.ok (some listener), state) => (reaction listener).outcome (announcement, state)
  | (.ok none, state) => (.ok ignored, announcement, state)
  | (.error stop, state) => (.error stop, announcement, state)

/-- A handler looks for the listener of its payload's entity. If there is none the event stays as it
is, and if there is one its reaction is all that happens.
-/
theorem outcome_onPayload_route (interceptor : Interceptor ε μ) (services : Services ε μ)
    (factory : κ → Option SessionFactory) (ignored : α)
    (reaction : Listener → κ → Call (ε × State μ) α) (rebuild : Payload ε κ → Event ε)
    (payload : Payload ε κ) (cancelled : Bool) (state : State μ)
    : (Announcement.onPayload rebuild payload
          (interceptor.route services factory ignored reaction)).outcome
          (⟨rebuild payload, cancelled⟩, state)
      = resume ignored
          (fun listener =>
            Announcement.onPayload rebuild payload
              (Payload.onEntity ignored (reaction listener payload.origin)))
          ⟨rebuild payload, cancelled⟩
          ((interceptor.findForWith services payload.entity (factory payload.origin)).outcome
            state) := by
  rw [Announcement.onPayload, Call.outcome_ofOutcome, route]
  simp only [Call.outcome_bind, Call.outcome_get, Call.andThen, Call.onSecond,
    Call.outcome_ofOutcome]
  rcases (interceptor.findForWith services payload.entity (factory payload.origin)).outcome state
    with ⟨stop | _ | listener, reached⟩
  · rfl
  · rfl
  · rfl

omit [Entity ε μ] in
/-- What is done after a reaction may as well be a part of it. -/
theorem andThen_resume {β : Type} (ignored : α)
    (reaction : Listener → Call (Announcement ε × State μ) α) (announcement : Announcement ε)
    (next : α → Call (Announcement ε × State μ) β) (answer : β)
    (passes : ∀ start, (next ignored).outcome start = (.ok answer, start))
    (found : Except Stop (Option Listener) × State μ)
    : Call.andThen next (resume ignored reaction announcement found)
      = resume answer (fun listener => reaction listener >>= next) announcement found := by
  rcases found with ⟨stop | _ | listener, state⟩
  · rfl
  · exact passes _
  · exact (Call.outcome_bind _ _ _).symm

/-- A handler that decides nothing lets every write go on. -/
theorem outcome_onPayload_notify (interceptor : Interceptor ε μ) (services : Services ε μ)
    (factory : κ → Option SessionFactory) (reaction : Listener → κ → Call (ε × State μ) Unit)
    (rebuild : Payload ε κ → Event ε) (payload : Payload ε κ) (cancelled : Bool) (state : State μ)
    : (do
        Announcement.onPayload rebuild payload (interceptor.route services factory () reaction)
        pure false : Call (Announcement ε × State μ) Bool).outcome
          (⟨rebuild payload, cancelled⟩, state)
      = resume false
          (fun listener => do
            Announcement.onPayload rebuild payload
              (Payload.onEntity () (reaction listener payload.origin))
            pure false)
          ⟨rebuild payload, cancelled⟩
          ((interceptor.findForWith services payload.entity (factory payload.origin)).outcome
            state) := by
  rw [Call.outcome_bind, outcome_onPayload_route]
  exact andThen_resume () _ _ (fun _ => pure false) false (fun _ => rfl) _

/-- An event is handled by looking for the listener of its entity and letting it react; without a
listener no write is skipped.
-/
theorem outcome_handleWith (interceptor : Interceptor ε μ) (services : Services ε μ)
    (announcement : Announcement ε) (state : State μ)
    : (interceptor.handleWith services).outcome (announcement, state)
      = resume false (fun listener => listener.react services) announcement
          ((interceptor.findForWith services announcement.event.entity
            announcement.event.factory).outcome state) := by
  obtain ⟨event, cancelled⟩ := announcement
  rw [handleWith, Call.outcome_bind, Call.outcome_get]
  cases event with
  | pre write payload => exact interceptor.outcome_onPayload_route services _ _ _ _ payload _ _
  | post write payload => exact interceptor.outcome_onPayload_notify services _ _ _ payload _ _
  | preLoad payload => exact interceptor.outcome_onPayload_notify services _ _ _ payload _ _
  | postLoad payload => exact interceptor.outcome_onPayload_notify services _ _ _ payload _ _
  | saveOrUpdate payload => exact interceptor.outcome_onPayload_notify services _ _ _ payload _ _
  | validation payload => exact interceptor.outcome_onPayload_notify services _ _ _ payload _ _

/-- An event is dispatched by looking for the listener of its entity and delivering it. Without a
listener nothing is done to the event.
-/
theorem outcome_dispatchWith (interceptor : Interceptor ε μ) (services : Services ε μ)
    (announcement : Announcement ε) (state : State μ)
    : (interceptor.dispatchWith services).outcome (announcement, state)
      = resume () (fun listener => listener.deliver services) announcement
          ((interceptor.findForWith services announcement.event.entity
            announcement.event.factory).outcome state) := by
  rw [dispatchWith, Call.outcome_bind, outcome_handleWith, andThen_resume _ _ _ _ ()]
  · rfl
  · exact fun _ => rfl

end Interceptor

end Lifecycle
