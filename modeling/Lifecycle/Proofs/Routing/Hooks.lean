import Lifecycle.Proofs.Routing.Recording

/-! Which hooks a listener calls. Of the hooks of an entity a listener calls the one that belongs to
the kind of the event, once, before anything else; what it does after that calls no hook of the
entity, and neither does the hook itself.
-/

namespace Lifecycle

variable {ε μ α β : Type}

/-- The hooks that have been called on the entity of an event. -/
def Event.called (event : Event (Recorded ε)) : List Hook := event.entity.elim [] Recorded.called

/-- No hook has been called on an entity whose record is new. -/
@[simp] theorem Event.called_map_of (event : Event ε) : (event.map Recorded.of).called = [] := by
  rw [called, entity_map]
  cases event.entity <;> rfl

/-- However it ends, a call adds the given hooks to the record of an entity. -/
def Call.Records (call : Call (Recorded ε × State μ) α) (hooks : List Hook) : Prop :=
  ∀ start, (call.outcome start).2.1.called = start.1.called ++ hooks

namespace Call.Records

variable {hooks : List Hook} {copy : Services (Recorded ε) μ}

theorem still {call : Call (Recorded ε × State μ) α}
    (same : ∀ start, (call.outcome start).2.1.called = start.1.called)
    : call.Records [] :=
  fun start => (same start).trans (List.append_nil _).symm

theorem pure (value : α) : (Pure.pure value : Call (Recorded ε × State μ) α).Records [] :=
  .still (fun _ => rfl)

theorem answer (result : Except Failure α)
    : (Call.answer result : Call (Recorded ε × State μ) α).Records [] := by
  cases result <;> exact .still (fun _ => rfl)

theorem onSecond (call : Call (State μ) α)
    : (call.onSecond : Call (Recorded ε × State μ) α).Records [] :=
  .still (fun _ => rfl)

/-- If what follows a call calls no hooks, they are those of the call. -/
theorem bind {call : Call (Recorded ε × State μ) α} {next : α → Call (Recorded ε × State μ) β}
    (first : call.Records hooks) (rest : ∀ value, (next value).Records [])
    : (call >>= next).Records hooks := by
  intro start
  have begun := first start
  rw [Call.outcome_bind]
  rcases ends : call.outcome start with ⟨stop | value, reached⟩
  · rw [ends] at begun
    exact begun
  · rw [ends] at begun
    have after := rest value reached
    rw [List.append_nil] at after
    exact after.trans begun

/-- A script that works on the entity leaves its record alone. -/
theorem run (script : Script ε μ ε α)
    : ((script.recorded Recorded.entity Recorded.put).run copy).Records [] := by
  induction script with
  | done value => exact .pure value
  | panic => exact .still (fun _ => rfl)
  | access change next ih =>
      rintro ⟨mine, state⟩
      exact ih _ (_, _)
  | find cls factory next ih => exact .bind (.onSecond _) ih
  | evict key next ih => exact .bind (.onSecond _) ih
  | clear next ih => exact .bind (.onSecond _) (fun _ => ih)
  | dispatch announcement next ih =>
      exact .bind (.onSecond _) (fun answered => ih answered.1 (answered.2.map Recorded.entity))

/-- A hook is written down when it is called. -/
theorem script (hook : Hook) (script : Script ε μ ε α)
    : ((Recorded.script hook script).run copy).Records [hook] :=
  fun start => (run script (_, start.2)).trans (List.append_nil _)

variable [Entity ε μ]

/-- The hook that belongs to an event is that of its kind. -/
theorem callback (event : Event (Recorded ε)) (mine : Recorded ε)
    : ((event.callback mine).run copy).Records event.kind.hook?.toList := by
  have told (notice : Notice) : ((notice.callback mine).run copy).Records [notice.hook] := by
    intro start
    rw [Notice.callback, Script.outcome_run_map]
    exact script notice.hook (Entity.receive mine.entity notice) start
  cases event with
  | pre write payload => exact script (.before write) (Entity.before mine.entity write)
  | post write payload => exact told (.after write)
  | preLoad payload => exact told .beforeLoad
  | postLoad payload => exact told .afterLoad
  | saveOrUpdate payload => exact .pure _
  | validation payload => exact told (.beforeValidate payload.origin)

theorem stamp (listener : Listener) (change : Instant → AuditStamps → AuditStamps)
    : (listener.stamp change : Call (Recorded ε × State μ) Unit).Records [] := by
  refine .still (fun start => ?_)
  rw [Listener.stamp, Call.outcome_modify]
  dsimp only
  split <;> rfl

theorem judge (listener : Listener)
    : (listener.judge : Call (Recorded ε × State μ) Bool).Records [] := by
  intro start
  rw [listener.outcome_judge]
  exact answer _ start

/-- What follows a hook calls no other. -/
theorem after (listener : Listener) (event : Event (Recorded ε)) (decision : Decision)
    : (listener.after event decision : Call (Recorded ε × State μ) Bool).Records [] := by
  cases event with
  | pre write payload =>
      simp only [Listener.after]
      split
      · exact .pure true
      · split
        · exact .bind (.stamp listener _) (fun _ => .judge listener)
        · exact .pure false
  | saveOrUpdate payload =>
      refine .bind ?_ (fun _ => .pure false)
      unfold Listener.onSave
      split
      · exact .pure ()
      · exact .stamp listener _
  | post | preLoad | postLoad | validation => exact .pure false

/-- A listener that attends to an entity calls the hook of the event's kind, once, and no other. -/
theorem attend (listener : Listener) (event : Event (Recorded ε))
    : (listener.attend copy event).Records event.kind.hook?.toList := by
  refine .bind (fun start => ?_) (.after listener event)
  rw [Listener.callHook, Call.outcome_bind, Call.outcome_get]
  exact bind (callback event start.1) (fun result => answer result) start

end Call.Records

variable [Entity ε μ]

/-- A listener calls the hook of the event's kind on the entity of the event, if there is one. -/
theorem called_react (copy : Services (Recorded ε) μ) (listener : Listener)
    (announcement : Announcement (Recorded ε)) (state : State μ)
    : ((listener.react copy).outcome (announcement, state)).2.1.event.called
      = announcement.event.entity.elim []
          (fun mine => mine.called ++ announcement.event.kind.hook?.toList) := by
  rw [Listener.outcome_react]
  cases carried : announcement.event.entity with
  | none => exact congrArg (Option.elim · [] Recorded.called) carried
  | some mine =>
      have attended : (listener.attend copy announcement.event).Records
          announcement.event.kind.hook?.toList :=
        .attend listener announcement.event
      have concluded (last : Recorded ε)
          : (announcement.event.map (fun _ => last)).called = last.called := by
        rw [Event.called, Event.entity_map, carried]
        rfl
      exact (concluded _).trans (attended (mine, state))

theorem called_deliver (copy : Services (Recorded ε) μ) (listener : Listener)
    (announcement : Announcement (Recorded ε)) (state : State μ)
    : ((listener.deliver copy).outcome (announcement, state)).2.1.event.called
      = announcement.event.entity.elim []
          (fun mine => mine.called ++ announcement.event.kind.hook?.toList) := by
  have reacts := called_react copy listener announcement state
  rw [Listener.deliver, Call.outcome_bind]
  rcases ends : (listener.react copy).outcome (announcement, state)
    with ⟨stop | _ | _, reached⟩
  all_goals
    rw [ends] at reacts
    exact reacts

namespace Interceptor

/-- For an event whose class is found to have a listener the hook of its kind is called, once; for
any other event none is.
-/
theorem called_dispatchWith (interceptor : Interceptor (Recorded ε) μ)
    (copy : Services (Recorded ε) μ) (announcement : Announcement (Recorded ε)) (state : State μ)
    : ((interceptor.dispatchWith copy).outcome (announcement, state)).2.1.event.called
      = announcement.event.called
        ++ match (interceptor.findForWith copy announcement.event.entity
              announcement.event.factory).outcome state with
          | (.ok (some _), _) => announcement.event.kind.hook?.toList
          | _ => [] := by
  rw [outcome_dispatchWith]
  cases carried : announcement.event.entity with
  | none => exact (List.append_nil _).symm
  | some mine =>
      rcases (interceptor.findForWith copy (some mine) announcement.event.factory).outcome state
        with ⟨stop | _ | listener, reached⟩
      · exact (List.append_nil _).symm
      · exact (List.append_nil _).symm
      · have delivered := called_deliver copy listener announcement reached
        rw [carried] at delivered
        have before : announcement.event.called = mine.called :=
          congrArg (fun carried => carried.elim [] Recorded.called) carried
        rw [before]
        exact delivered

/-- If entities are recorded, the record of an event's entity shows the hook of the event's kind, if
the class of the entity is found to have a listener, and otherwise nothing.
-/
theorem called_recorded (interceptor : Interceptor ε μ) (depth : Nat)
    (announcement : Announcement ε) (state : State μ)
    : ((interceptor.recorded.dispatchWith (interceptor.recorded.servicesTo depth)).outcome
          (announcement.map Recorded.of, state)).2.1.event.called
      = match (interceptor.findForWith (interceptor.servicesTo depth) announcement.event.entity
            announcement.event.factory).outcome state with
        | (.ok (some _), _) => announcement.event.kind.hook?.toList
        | _ => [] := by
  rw [called_dispatchWith]
  simp only [Announcement.map, Event.entity_map, Event.factory_map, Event.kind_map,
    Event.called_map_of, List.nil_append, outcome_findForWith_recorded]

/-- An entity whose class is found to have a listener has the hook of the event's kind called. -/
theorem called_recorded_of_listener (interceptor : Interceptor ε μ) (depth : Nat)
    (announcement : Announcement ε) (state : State μ) {listener : Listener}
    (finds
      : ((interceptor.findForWith (interceptor.servicesTo depth) announcement.event.entity
          announcement.event.factory).outcome state).1 = .ok (some listener))
    : ((interceptor.recorded.dispatchWith (interceptor.recorded.servicesTo depth)).outcome
          (announcement.map Recorded.of, state)).2.1.event.called
      = announcement.event.kind.hook?.toList := by
  rw [called_recorded]
  rcases ends : (interceptor.findForWith (interceptor.servicesTo depth) announcement.event.entity
      announcement.event.factory).outcome state with ⟨result, reached⟩
  rw [ends] at finds
  cases finds
  rfl

/-- If there is no entity, or no listener is found for it, no hook is called. -/
theorem called_recorded_of_unheard (interceptor : Interceptor ε μ) (depth : Nat)
    (announcement : Announcement ε) (state : State μ)
    (unheard
      : announcement.event.entity = none
        ∨ ∀ listener,
            ((interceptor.findForWith (interceptor.servicesTo depth) announcement.event.entity
                announcement.event.factory).outcome state).1
              ≠ .ok (some listener))
    : ((interceptor.recorded.dispatchWith (interceptor.recorded.servicesTo depth)).outcome
          (announcement.map Recorded.of, state)).2.1.event.called
      = [] := by
  rw [called_recorded]
  rcases unheard with absent | unfound
  · rw [absent]
    rfl
  · rcases ends : (interceptor.findForWith (interceptor.servicesTo depth)
        announcement.event.entity announcement.event.factory).outcome state
      with ⟨stop | _ | listener, reached⟩
    · rfl
    · rfl
    · exact absurd (congrArg Prod.fst ends) (unfound listener)

end Interceptor

end Lifecycle
