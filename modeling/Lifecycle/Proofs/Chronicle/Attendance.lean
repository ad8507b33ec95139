import Lifecycle.Proofs.Nesting.Deeds

/-! How events end. An event whose class has a listener is attended to; what that leaves of the
entity and of the clocks is told by the hook and, if the event stamps its entity, by one reading of
the listener's clock.
-/

namespace Lifecycle

/-- What an event of this kind stamps on its entity, if it stamps anything. -/
def EventKind.stamping? : EventKind → Option (Instant → AuditStamps → AuditStamps)
  | .pre write => write.stamping?
  | .saveOrUpdate => some AuditStamps.saved
  | .post _ | .preLoad | .postLoad | .validation => none

variable {ε μ : Type}

/-- An event is one that stamps its entity, after its hook has decided: an insert or an update that
is not vetoed, or the save of an entity that the session does not track yet.
-/
def Event.isStamping (event : Event ε) (decision : Decision) : Bool :=
  match event with
  | .pre .insert _ | .pre .update _ => !decision.isVeto
  | .saveOrUpdate payload => payload.origin.entry.isNone
  | .pre .delete _ | .post .. | .preLoad _ | .postLoad _ | .validation _ => false

/-- An event stamps an entity if its hook comes back with a decision after which it does, and leaves
an entity that has stamps.
-/
def Event.isDue [Entity ε μ] (services : Services ε μ) (event : Event ε) (start : ε × State μ)
    : Bool :=
  match ((event.callback start.1).run services).outcome start with
  | (.ok (.ok decision), hooked, _) =>
      event.isStamping decision && (Entity.stamps hooked).isSome
  | _ => false

/-- What is left of an announcement when its entity has been attended to. The event is cancelled if
the write is to be skipped.
-/
def Announcement.finish (announcement : Announcement ε)
    : Except Stop Bool × ε × State μ → Except Stop Unit × Announcement ε × State μ
  | (result, last, reached) =>
      (result.map (fun _ => ()),
        ⟨announcement.event.map (fun _ => last),
          announcement.cancelled || result.toOption.any id⟩, reached)

variable [Entity ε μ]

namespace Listener

variable (listener : Listener)

/-- A stamped entity has one reading of the listener's clock in its stamps. -/
theorem outcome_stamp_of_stamps (change : Instant → AuditStamps → AuditStamps)
    {start : ε × State μ} {old : AuditStamps} (shown : Entity.stamps start.1 = some old)
    : (listener.stamp change).outcome start
      = (.ok (),
          Entity.withStamps start.1
            (change (listener.clock.reading (start.2.readings.count listener.clock)) old),
          { start.2 with readings := (start.2.readings.next listener.clock).2 }) := by
  simp only [stamp, Call.outcome_modify, shown]
  rfl

theorem outcome_stamp_of_none (change : Instant → AuditStamps → AuditStamps)
    {start : ε × State μ} (bare : Entity.stamps start.1 = none)
    : (listener.stamp change).outcome start = (.ok (), start) := by
  simp only [stamp, Call.outcome_modify, bare]

/-- Judging an entity changes nothing, so a stamp is all there is to see of a stamp and a judgement.
-/
theorem outcome_stamp_judge (change : Instant → AuditStamps → AuditStamps) (start : ε × State μ)
    : ((do listener.stamp change; listener.judge : Call (ε × State μ) Bool).outcome start).2
      = ((listener.stamp change : Call (ε × State μ) Unit).outcome start).2 := by
  obtain ⟨stamped, stamps⟩
      : ∃ stamped,
          (listener.stamp change : Call (ε × State μ) Unit).outcome start = (.ok (), stamped) :=
    ⟨_, rfl⟩
  rw [Call.outcome_bind, stamps, Call.andThen, listener.outcome_judge, Call.outcome_answer]

/-- What follows the hook of an event that stamps its entity is the stamp. -/
theorem after_of_isStamping {event : Event ε} {decision : Decision} (start : ε × State μ)
    (stamping : event.isStamping decision = true)
    : ∃ change,
        event.kind.stamping? = some change
        ∧ ((listener.after event decision).outcome start).2
          = ((listener.stamp change : Call (ε × State μ) Unit).outcome start).2 := by
  cases event with
  | pre write payload =>
      cases write with
      | delete => cases stamping
      | insert =>
          cases decision with
          | veto => cases stamping
          | proceed => exact ⟨_, rfl, listener.outcome_stamp_judge _ start⟩
      | update =>
          cases decision with
          | veto => cases stamping
          | proceed => exact ⟨_, rfl, listener.outcome_stamp_judge _ start⟩
  | saveOrUpdate payload =>
      obtain ⟨entity, session, _ | entry⟩ := payload
      · exact ⟨_, rfl, rfl⟩
      · cases stamping
  | post | preLoad | postLoad | validation => cases stamping

/-- What follows the hook of any other event leaves the entity to what the hook has made of it. -/
theorem after_of_not_isStamping {event : Event ε} {decision : Decision} (start : ε × State μ)
    (stamping : event.isStamping decision = false)
    : ((listener.after event decision).outcome start).2 = start := by
  cases event with
  | pre write payload =>
      cases decision with
      | veto => rfl
      | proceed =>
          cases write with
          | delete => rfl
          | insert | update => cases stamping
  | saveOrUpdate payload =>
      obtain ⟨entity, session, _ | entry⟩ := payload
      · cases stamping
      · rfl
  | post | preLoad | postLoad | validation => rfl

/-- If the hook of an event does not come back with an answer nothing more is done. -/
theorem attend_of_stop (services : Services ε μ) (event : Event ε) {start reached : ε × State μ}
    {stop : Stop}
    (stops : ((event.callback start.1).run services).outcome start = (.error stop, reached))
    : (listener.attend services event).outcome start = (.error stop, reached) := by
  simp only [attend, callHook, Call.outcome_bind, Call.outcome_get, Call.andThen, stops]

/-- What follows the hook of an event comes back, so the listener ends as the hook does. -/
theorem ending_attend (services : Services ε μ) (event : Event ε) (start : ε × State μ)
    : Ending.of ((listener.attend services event).outcome start).1
      = .of (((event.callback start.1).run services).outcome start).1 := by
  rcases ends : ((event.callback start.1).run services).outcome start
    with ⟨stop | cause | decision, hooked, reached⟩
  · rw [listener.attend_of_stop services event ends]
    cases stop <;> rfl
  · rw [listener.attend_of_error services event ends]
    rfl
  · rw [listener.attend_of_decision services event ends, Listener.after_eq]
    split
    · cases listener.judgement ((listener.after event decision).outcome (hooked, reached)).2.1 <;>
        rfl
    · rfl

/-- A listener that stamps an entity comes back, and takes one reading of its clock after the hook.
-/
theorem attend_of_isDue (services : Services ε μ) {event : Event ε} {start : ε × State μ}
    (due : event.isDue services start = true)
    : let (hooked, reached) := (((event.callback start.1).run services).outcome start).2
      ∃ change old,
        event.kind.stamping? = some change
        ∧ Entity.stamps hooked = some old
        ∧ Ending.of ((listener.attend services event).outcome start).1 = .returned
        ∧ ((listener.attend services event).outcome start).2
          = (Entity.withStamps hooked
              (change (listener.clock.reading (reached.readings.count listener.clock)) old),
            { reached with readings := (reached.readings.next listener.clock).2 }) := by
  unfold Event.isDue at due
  rcases ends : ((event.callback start.1).run services).outcome start
    with ⟨stop | cause | decision, hooked, reached⟩
  · rw [ends] at due
    cases due
  · rw [ends] at due
    cases due
  · rw [ends] at due
    obtain ⟨stamping, stamps⟩ := (Bool.and_eq_true _ _).mp due
    obtain ⟨old, shown⟩ := Option.isSome_iff_exists.mp stamps
    obtain ⟨change, rule, stamped⟩ := listener.after_of_isStamping (hooked, reached) stamping
    refine ⟨change, old, rule, shown, ?_, ?_⟩
    · rw [listener.ending_attend, ends]
      rfl
    · rw [listener.attend_of_decision services event ends, stamped,
        listener.outcome_stamp_of_stamps change shown]

/-- Otherwise it leaves everything as the hook has left it. -/
theorem attend_of_not_isDue (services : Services ε μ) {event : Event ε} {start : ε × State μ}
    (due : event.isDue services start = false)
    : ((listener.attend services event).outcome start).2
      = (((event.callback start.1).run services).outcome start).2 := by
  unfold Event.isDue at due
  rcases ends : ((event.callback start.1).run services).outcome start
    with ⟨stop | cause | decision, hooked, reached⟩
  · rw [listener.attend_of_stop services event ends]
  · rw [listener.attend_of_error services event ends]
  · rw [ends] at due
    rw [listener.attend_of_decision services event ends]
    rcases stamping : event.isStamping decision with _ | _
    · exact listener.after_of_not_isStamping (hooked, reached) stamping
    · obtain ⟨change, -, stamped⟩ := listener.after_of_isStamping (hooked, reached) stamping
      have bare : Entity.stamps hooked = none := by simpa [stamping] using due
      rw [stamped, listener.outcome_stamp_of_none change bare]

/-- A listener that is delivered an event attends to its entity. -/
theorem outcome_deliver (services : Services ε μ) {announcement : Announcement ε} {entity : ε}
    (carried : announcement.event.entity = some entity) (state : State μ)
    : (listener.deliver services).outcome (announcement, state)
      = announcement.finish
          ((listener.attend services announcement.event).outcome (entity, state)) := by
  rw [deliver, Call.outcome_bind, outcome_react, carried]
  dsimp only
  rcases (listener.attend services announcement.event).outcome (entity, state)
    with ⟨stop | _ | _, last, reached⟩
  · simp [Announcement.conclude, Announcement.finish, Call.andThen, Except.map, Except.toOption]
  · simp [Announcement.conclude, Announcement.finish, Call.andThen, Except.map, Except.toOption]
  · simp [Announcement.conclude, Announcement.finish, Call.andThen, Except.map, Except.toOption,
      Announcement.cancel]

end Listener

namespace Interceptor

/-- An event without an entity passes. -/
theorem outcome_dispatchWith_of_none (interceptor : Interceptor ε μ) (services : Services ε μ)
    {announcement : Announcement ε} (bare : announcement.event.entity = none) (state : State μ)
    : (interceptor.dispatchWith services).outcome (announcement, state)
      = (.ok (), announcement, state) := by
  rw [outcome_dispatchWith, bare]
  rfl

/-- An event with an entity is dispatched by looking for the listener of its class and letting it
attend to the entity.
-/
theorem outcome_dispatchWith_of_entity (interceptor : Interceptor ε μ) (services : Services ε μ)
    {announcement : Announcement ε} {entity : ε}
    (carried : announcement.event.entity = some entity) (state : State μ)
    : (interceptor.dispatchWith services).outcome (announcement, state)
      = match (interceptor.findWith services (Entity.cls entity)
            announcement.event.factory).outcome state with
        | (.ok (some listener), reached) =>
            announcement.finish
              ((listener.attend services announcement.event).outcome (entity, reached))
        | (.ok none, reached) => (.ok (), announcement, reached)
        | (.error stop, reached) => (.error stop, announcement, reached) := by
  rw [outcome_dispatchWith, carried, findForWith]
  rcases (interceptor.findWith services (Entity.cls entity) announcement.event.factory).outcome
    state with ⟨stop | _ | listener, reached⟩
  · rfl
  · rfl
  · exact listener.outcome_deliver services carried reached

end Interceptor

end Lifecycle
