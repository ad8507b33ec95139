import Lifecycle.Proofs.Resolution.Events

/-! What listeners do with the entities of events. A listener reacts to every event in the same way:
it calls the hook of the event's kind, and then does what is left to do, which calls no hook.
-/

namespace Lifecycle

-----------------------------------------------------------------------------------------
-- Other entities in the same events
-----------------------------------------------------------------------------------------

section Map

variable {ε δ γ κ : Type}

def Payload.map (change : ε → δ) (payload : Payload ε κ) : Payload δ κ :=
  ⟨payload.entity.map change, payload.origin⟩

/-- The event with another entity in the place of its own. -/
def Event.map (change : ε → δ) : Event ε → Event δ
  | .pre write payload => .pre write (payload.map change)
  | .post write payload => .post write (payload.map change)
  | .preLoad payload => .preLoad (payload.map change)
  | .postLoad payload => .postLoad (payload.map change)
  | .saveOrUpdate payload => .saveOrUpdate (payload.map change)
  | .validation payload => .validation (payload.map change)

def Announcement.map (change : ε → δ) (announcement : Announcement ε) : Announcement δ :=
  ⟨announcement.event.map change, announcement.cancelled⟩

@[simp] theorem Event.entity_map (change : ε → δ) (event : Event ε)
    : (event.map change).entity = event.entity.map change := by
  cases event <;> rfl

@[simp] theorem Event.factory_map (change : ε → δ) (event : Event ε)
    : (event.map change).factory = event.factory := by
  cases event <;> rfl

@[simp] theorem Event.kind_map (change : ε → δ) (event : Event ε)
    : (event.map change).kind = event.kind := by
  cases event <;> rfl

theorem Event.map_map (first : ε → δ) (second : δ → γ) (event : Event ε)
    : (event.map first).map second = event.map (second ∘ first) := by
  cases event <;> simp only [map, Payload.map, Option.map_map]

theorem Event.map_id (event : Event ε) : event.map id = event := by
  cases event <;> simp only [map, Payload.map, Option.map_id, id]

theorem Announcement.map_map (first : ε → δ) (second : δ → γ) (announcement : Announcement ε)
    : (announcement.map first).map second = announcement.map (second ∘ first) :=
  congrArg (Announcement.mk · announcement.cancelled) (announcement.event.map_map first second)

theorem Announcement.map_id (announcement : Announcement ε) : announcement.map id = announcement :=
  congrArg (Announcement.mk · announcement.cancelled) announcement.event.map_id

end Map

variable {ε μ own α β : Type}

-----------------------------------------------------------------------------------------
-- Hooks and what follows them
-----------------------------------------------------------------------------------------

/-- A script with a changed value runs as the script does. -/
theorem Script.outcome_run_map (services : Services ε μ) (change : α → β)
    (script : Script ε μ own α) (start : own × State μ)
    : ((script.map change).run services).outcome start
      = (((script.run services).outcome start).1.map change,
          ((script.run services).outcome start).2) := by
  induction script generalizing start with
  | done value => rfl
  | panic => rfl
  | access update next ih =>
      simp only [map, run, Call.outcome_bind, Call.outcome_get, Call.andThen, Call.outcome_set, ih]
  | find cls factory next ih =>
      simp only [map, run, Call.outcome_bind]
      rcases (services.find cls factory).onSecond.outcome start with ⟨stop | found, reached⟩
      · rfl
      · exact ih found reached
  | evict key next ih =>
      simp only [map, run, Call.outcome_bind]
      rcases (services.evict key).onSecond.outcome start with ⟨stop | dropped, reached⟩
      · rfl
      · exact ih dropped reached
  | clear next ih =>
      simp only [map, run, Call.outcome_bind]
      rcases services.clear.onSecond.outcome start with ⟨stop | done, reached⟩
      · rfl
      · exact ih reached
  | dispatch announcement next ih =>
      simp only [map, run, Call.outcome_bind]
      rcases (Call.onSecond (Call.lend services.dispatch.attempt announcement)).outcome start
        with ⟨stop | answered, reached⟩
      · rfl
      · exact ih answered.1 answered.2 reached

/-- Entities of events of this kind are judged, if no hook vetoes. -/
def EventKind.isJudged : EventKind → Bool
  | .pre write => write.stamping?.isSome
  | _ => false

section Reactions

variable [Entity ε μ]

/-- The hook that is told of a notice. It lets everything go on. -/
def Notice.callback (notice : Notice) (entity : ε) : Script ε μ ε (Except Failure Decision) :=
  (Entity.receive entity notice).map (fun result => result.map (fun _ => .proceed))

/-- The hook of an entity that belongs to an event, with what it decides. Saving has no hook. -/
def Event.callback (event : Event ε) (entity : ε) : Script ε μ ε (Except Failure Decision) :=
  match event with
  | .pre write _ => Entity.before entity write
  | .post write _ => (Notice.after write).callback entity
  | .preLoad _ => Notice.beforeLoad.callback entity
  | .postLoad _ => Notice.afterLoad.callback entity
  | .saveOrUpdate _ => .done (.ok .proceed)
  | .validation payload => (Notice.beforeValidate payload.origin).callback entity

/-- What a listener does after the hook of an event. -/
def Listener.after (listener : Listener) (event : Event ε) (decision : Decision)
    : Call (ε × State μ) Bool :=
  match event with
  | .pre write _ =>
      if decision.isVeto then pure true
      else
        match write.stamping? with
        | some change => do
            listener.stamp change
            listener.judge
        | none => pure false
  | .saveOrUpdate payload => do
      listener.onSave payload.origin
      pure false
  | _ => pure false

/-- What a listener does with the entity of an event: it calls the hook, and goes on if that answers
without a failure.
-/
def Listener.attend (listener : Listener) (services : Services ε μ) (event : Event ε)
    : Call (ε × State μ) Bool := do
  let decision ← Listener.callHook services event.callback
  listener.after event decision

/-- A notice is given by calling its hook. -/
theorem Listener.outcome_notify (services : Services ε μ) (notice : Notice) (start : ε × State μ)
    : (do
        Listener.notify services notice
        pure false : Call (ε × State μ) Bool).outcome start
      = (do
          let _ ← Listener.callHook services notice.callback
          pure false : Call (ε × State μ) Bool).outcome start := by
  simp only [Listener.notify, Listener.callHook, Notice.callback, Call.outcome_bind,
    Call.outcome_get, Call.andThen, Script.outcome_run_map]
  rcases ((Entity.receive start.1 notice).run services).outcome start
    with ⟨stop | (cause | told), reached⟩ <;> rfl

/-- What is left of a reaction when the entity of the event has been attended to. -/
def Announcement.conclude (announcement : Announcement ε)
    : Except Stop Bool × ε × State μ → Except Stop Bool × Announcement ε × State μ
  | (result, last, reached) =>
      (result, { announcement with event := announcement.event.map (fun _ => last) }, reached)

section Payloads

variable {κ : Type} {rebuild : Payload ε κ → Event ε} {payload : Payload ε κ}

omit [Entity ε μ] in
theorem outcome_onPayload_of_none (absent : payload.entity = none) (answer : α)
    (call : Call (ε × State μ) α) (cancelled : Bool) (state : State μ)
    : (Announcement.onPayload rebuild payload (Payload.onEntity answer call)).outcome
          (⟨rebuild payload, cancelled⟩, state)
      = (.ok answer, ⟨rebuild payload, cancelled⟩, state) := by
  simp only [Announcement.onPayload, Payload.onEntity, Call.outcome_ofOutcome, absent]

omit [Entity ε μ] in
/-- What is done to the payload of an event is done to its entity, and the event is the same but for
that.
-/
theorem outcome_onPayload_of_some {entity : ε} (carried : payload.entity = some entity)
    (maps : ∀ change, (rebuild payload).map change = rebuild (payload.map change)) (absent : Bool)
    (call : Call (ε × State μ) Bool) (cancelled : Bool) (state : State μ)
    : (Announcement.onPayload rebuild payload (Payload.onEntity absent call)).outcome
          (⟨rebuild payload, cancelled⟩, state)
      = Announcement.conclude ⟨rebuild payload, cancelled⟩ (call.outcome (entity, state)) := by
  simp only [Announcement.onPayload, Payload.onEntity, Call.outcome_ofOutcome, carried,
    Announcement.conclude, maps, Payload.map, Option.map]

omit [Entity ε μ] in
/-- The answer that is given in the end may as well be given on the entity. -/
theorem outcome_onPayload_bind {entity : ε} (carried : payload.entity = some entity)
    (maps : ∀ change, (rebuild payload).map change = rebuild (payload.map change))
    (call : Call (ε × State μ) Unit) (cancelled : Bool) (state : State μ)
    : (do
        Announcement.onPayload rebuild payload (Payload.onEntity () call)
        pure false : Call (Announcement ε × State μ) Bool).outcome
          (⟨rebuild payload, cancelled⟩, state)
      = Announcement.conclude ⟨rebuild payload, cancelled⟩
          ((do
            call
            pure false : Call (ε × State μ) Bool).outcome (entity, state)) := by
  simp only [Announcement.onPayload, Payload.onEntity, Call.outcome_bind, Call.outcome_ofOutcome,
    carried, Announcement.conclude, maps, Payload.map, Option.map]
  rcases call.outcome (entity, state) with ⟨stop | value, last, reached⟩ <;> rfl

end Payloads

/-- A listener reacts to an event by attending to its entity, if there is one. -/
theorem Listener.outcome_react (listener : Listener) (services : Services ε μ)
    (announcement : Announcement ε) (state : State μ)
    : (listener.react services).outcome (announcement, state)
      = match announcement.event.entity with
        | none => (.ok false, announcement, state)
        | some entity =>
            announcement.conclude
              ((listener.attend services announcement.event).outcome (entity, state)) := by
  have told {κ : Type} (notice : Notice) {rebuild : Payload ε κ → Event ε} {payload : Payload ε κ}
      {entity : ε} (carried : payload.entity = some entity)
      (maps : ∀ change, (rebuild payload).map change = rebuild (payload.map change))
      (cancelled : Bool) :=
    (outcome_onPayload_bind carried maps (Listener.notify services notice) cancelled state).trans
      (congrArg _ (Listener.outcome_notify services notice (entity, state)))
  obtain ⟨event, cancelled⟩ := announcement
  rw [Listener.react, Call.outcome_bind, Call.outcome_get]
  cases carried : event.entity with
  | none =>
      cases event with
      | pre => exact outcome_onPayload_of_none carried false _ cancelled state
      | post | preLoad | postLoad | saveOrUpdate | validation =>
          exact (Call.outcome_bind _ _ _).trans
            (congrArg _ (outcome_onPayload_of_none carried () _ cancelled state))
  | some entity =>
      cases event with
      | pre write payload => exact outcome_onPayload_of_some carried (fun _ => rfl) _ _ _ _
      | post write payload => exact told (.after write) carried (fun _ => rfl) cancelled
      | preLoad payload => exact told .beforeLoad carried (fun _ => rfl) cancelled
      | postLoad payload => exact told .afterLoad carried (fun _ => rfl) cancelled
      | saveOrUpdate payload => exact outcome_onPayload_bind carried (fun _ => rfl) _ _ _
      | validation payload =>
          exact told (.beforeValidate payload.origin) carried (fun _ => rfl) cancelled

/-- What a listener answers after the hook of an event: it judges the entity as it is in the end, or
it does what the hook has decided.
-/
theorem Listener.after_eq (listener : Listener) (event : Event ε) (decision : Decision)
    (start : ε × State μ)
    : ((listener.after event decision).outcome start).1
      = if event.kind.isJudged && !decision.isVeto then
          (listener.judgement ((listener.after event decision).outcome start).2.1).mapError .failed
        else .ok (event.kind.isCancellable && decision.isVeto) := by
  have judged (change : Instant → AuditStamps → AuditStamps)
      : ((do listener.stamp change; listener.judge : Call (ε × State μ) Bool).outcome start).1
        = (listener.judgement ((do
            listener.stamp change
            listener.judge : Call (ε × State μ) Bool).outcome start).2.1).mapError .failed := by
    obtain ⟨stamped, stamps⟩
        : ∃ stamped,
            (listener.stamp change : Call (ε × State μ) Unit).outcome start = (.ok (), stamped) :=
      ⟨_, rfl⟩
    rw [Call.outcome_bind, stamps, Call.andThen, listener.outcome_judge, Call.outcome_answer]
  cases event with
  | pre write payload =>
      cases decision with
      | veto => cases write <;> rfl
      | proceed =>
          cases write with
          | insert => exact judged _
          | update => exact judged _
          | delete => rfl
  | saveOrUpdate payload =>
      rcases payload with ⟨entity, session, _ | entry⟩
      · rfl
      · rfl
  | _ => rfl

/-- A failure of the hook is the failure of the listener, and nothing more is done. -/
theorem Listener.attend_of_error (listener : Listener) (services : Services ε μ) (event : Event ε)
    {start reached : ε × State μ} {cause : Failure}
    (fails
      : ((event.callback start.1).run services).outcome start = (.ok (.error cause), reached))
    : (listener.attend services event).outcome start = (.error (.failed cause), reached) := by
  simp only [Listener.attend, Listener.callHook, Call.outcome_bind, Call.outcome_get, Call.andThen,
    fails, Call.answer, Call.outcome_throw]

theorem Listener.attend_of_decision (listener : Listener) (services : Services ε μ)
    (event : Event ε) {start reached : ε × State μ} {decision : Decision}
    (decides
      : ((event.callback start.1).run services).outcome start = (.ok (.ok decision), reached))
    : (listener.attend services event).outcome start
      = (listener.after event decision).outcome reached := by
  simp only [Listener.attend, Listener.callHook, Call.outcome_bind, Call.outcome_get, Call.andThen,
    decides, Call.answer, Call.outcome_pure]

end Reactions

end Lifecycle
