import Lifecycle.Entity

/-! What a listener does with the entity of an event: it calls the hook of the event's kind, fills
in audit stamps, and judges an entity that is about to be written. A reaction works on the entity
and the interceptor's state together, and what the hook did to either is never undone.
-/

namespace Lifecycle

/-- What a write stamps on the entity that is written, if it stamps anything. -/
def Write.stamping? : Write → Option (Instant → AuditStamps → AuditStamps)
  | .insert => some AuditStamps.inserted
  | .update => some AuditStamps.updatedAt
  | .delete => none

namespace Payload

variable {ε κ σ α : Type}

/-- A call on the entity that a payload carries; without an entity the given answer. -/
def onEntity (absent : α) (call : Call (ε × σ) α) : Call (Payload ε κ × σ) α :=
  .ofOutcome (fun (payload, state) =>
    match payload.entity with
    | none => (.ok absent, payload, state)
    | some entity =>
        let (result, entity, state) := call.outcome (entity, state)
        (result, { payload with entity := some entity }, state))

end Payload

namespace Announcement

variable {ε κ σ α : Type}

/-- A call on the payload of an announced event. -/
def onPayload (rebuild : Payload ε κ → Event ε) (payload : Payload ε κ)
    (call : Call (Payload ε κ × σ) α) : Call (Announcement ε × σ) α :=
  .ofOutcome (fun (announcement, state) =>
    let (result, payload, state) := call.outcome (payload, state)
    (result, { announcement with event := rebuild payload }, state))

end Announcement

namespace Listener

variable {ε μ α : Type} [Entity ε μ]

/-- Calls a hook of the entity. The failure that a hook reports is the failure of the call. -/
def callHook (services : Services ε μ) (hook : ε → Script ε μ ε (Except Failure α))
    : Call (ε × State μ) α := do
  let (entity, _) ← get
  let result ← (hook entity).run services
  Call.answer result

/-- Changes the stamps of the entity, with one reading of the listener's clock. An entity that
has no stamps is left alone, and the clock is not read for it.
-/
def stamp (listener : Listener) (change : Instant → AuditStamps → AuditStamps)
    : Call (ε × State μ) Unit :=
  modify (fun (entity, state) =>
    match Entity.stamps entity with
    | none => (entity, state)
    | some stamps =>
        let (now, readings) := state.readings.next listener.clock
        (Entity.withStamps entity (change now stamps), { state with readings }))

/-- Judges the entity as it is now: a valid one passes, and so does one that does not want to be
judged. Rejecting an entity is a failure where validation errors are fatal.
-/
def judge (listener : Listener) : Call (ε × State μ) Bool := do
  let (entity, _) ← get
  let errors := Entity.validationErrors entity
  if !Entity.autoValidate entity || errors.isEmpty then pure false
  else if listener.failOnError then throw (.failed (.validation listener.cls.name errors))
  else pure true

/-- Before a write: the hook, then the stamps, then the judgement on what hook and stamps have
made of the entity. A veto of the hook ends the reaction. Answers whether the write is to be
skipped.
-/
def beforeWrite (listener : Listener) (services : Services ε μ) (write : Write)
    : Call (ε × State μ) Bool := do
  let decision ← callHook services (fun entity => Entity.before entity write)
  if decision.isVeto then pure true
  else
    match write.stamping? with
    | some change => do
        listener.stamp change
        listener.judge
    | none => pure false

def notify (services : Services ε μ) (notice : Notice) : Call (ε × State μ) Unit :=
  callHook services (fun entity => Entity.receive entity notice)

/-- When an entity is saved, the stamps of one that the session does not track yet are filled in,
before the engine schedules the insert.
-/
def onSave (listener : Listener) (origin : SaveOrigin) : Call (ε × State μ) Unit :=
  match origin.entry with
  | some _ => pure ()
  | none => listener.stamp AuditStamps.saved

/-- The reaction to an event, handed to the listener without a resolution. Answers whether a
write is to be skipped; an event without an entity is ignored.
-/
def react (listener : Listener) (services : Services ε μ)
    : Call (Announcement ε × State μ) Bool := do
  let (announcement, _) ← get
  match announcement.event with
  | .pre write payload =>
      Announcement.onPayload (.pre write) payload
        (Payload.onEntity false (listener.beforeWrite services write))
  | .post write payload => do
      Announcement.onPayload (.post write) payload
        (Payload.onEntity () (notify services (.after write)))
      pure false
  | .preLoad payload => do
      Announcement.onPayload .preLoad payload
        (Payload.onEntity () (notify services .beforeLoad))
      pure false
  | .postLoad payload => do
      Announcement.onPayload .postLoad payload
        (Payload.onEntity () (notify services .afterLoad))
      pure false
  | .saveOrUpdate payload => do
      Announcement.onPayload .saveOrUpdate payload
        (Payload.onEntity () (listener.onSave payload.origin))
      pure false
  | .validation payload => do
      Announcement.onPayload .validation payload
        (Payload.onEntity () (notify services (.beforeValidate payload.origin)))
      pure false

end Listener

end Lifecycle
