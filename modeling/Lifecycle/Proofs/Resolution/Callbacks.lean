import Lifecycle.Proofs.Resolution.Listing
import Lifecycle.Proofs.Resolution.Reactions

/-! What hooks do to the interceptor that calls them. A hook may ask for listeners, evict and
dispatch further events, as deep as calls may nest. What is asked is listed as it is asked, and the
interceptor is left as if all of it had been asked from outside.
-/

namespace Lifecycle

variable {ε μ : Type}

/-- What is asked of an interceptor by each call that services answer, made in a state. -/
abbrev Requests (ε μ : Type) := Listing ε μ (Operation μ)

/-- What a script asks of the interceptor, and what it does to the memory in between. -/
def Script.requests {own α : Type} (services : Services ε μ) (made : Requests ε μ)
    : Script ε μ own α → own → State μ → List (Operation μ) :=
  Script.listing (fun state memory => [.elsewhere state.readings memory]) services made

variable [Entity ε μ]

/-- What is asked by the hook that a listener calls for an event. -/
def Event.requests (services : Services ε μ) (made : Requests ε μ) (event : Event ε)
    (state : State μ)
    : List (Operation μ) :=
  event.entity.elim []
    (fun entity => (event.callback entity).requests services made entity state)

namespace Interceptor

/-- What is asked in the course of an event: for the listener of its entity's class, and if there is
one whatever its hook asks. What is done after the hook only reads a clock.
-/
def dispatchRequests (interceptor : Interceptor ε μ) (services : Services ε μ)
    (made : Requests ε μ) (announcement : Announcement ε) (state : State μ)
    : List (Operation μ) :=
  let event := announcement.event
  event.request
    :: match (interceptor.findForWith services event.entity event.factory).outcome state with
      | (.ok (some _), reached) =>
          let left := ((interceptor.dispatchWith services).outcome (announcement, state)).2.2
          event.requests services made reached ++ [.elsewhere left.readings left.memory]
      | _ => []

/-- What is asked by the calls that an interceptor answers to the given depth. -/
def requestsTo (interceptor : Interceptor ε μ) : Nat → Requests ε μ
  | 0 => .none
  | depth + 1 =>
      { find := fun cls factory _ => [.find (some cls) factory]
        evict := fun key _ => [.evict key]
        clear := fun _ => [.clear]
        dispatch :=
          interceptor.dispatchRequests (interceptor.servicesTo depth)
            (interceptor.requestsTo depth) }

theorem after_append (interceptor : Interceptor ε μ) (state : State μ)
    (first rest : List (Operation μ))
    : interceptor.after state (first ++ rest)
      = interceptor.after (interceptor.after state first) rest :=
  answers_append _ _ _ _

/-- What is reached is what the requests lead to, however the calls end that make them. -/
def Performs (interceptor : Interceptor ε μ) (before : State μ) (requests : List (Operation μ))
    (_ : Ending) (reached : State μ) : Prop :=
  reached = interceptor.after before requests

/-- Requests tell how the state changes, with what is done to the memory between them. -/
theorem tells_performs (interceptor : Interceptor ε μ)
    : Tells interceptor.Performs (fun state memory => [.elsewhere state.readings memory]) where
  stays _ _ := rfl
  accesses _ _ := rfl
  append := by
    rintro before middle reached earlier later ending rfl rfl
    exact (interceptor.after_append before earlier later).symm

end Interceptor

-----------------------------------------------------------------------------------------
-- Listeners and events
-----------------------------------------------------------------------------------------

/-- Stamping an entity reads a clock, if it does anything. -/
theorem Listener.exists_readings_stamp (listener : Listener)
    (change : Instant → AuditStamps → AuditStamps) (start : ε × State μ)
    : ∃ readings,
        ((listener.stamp change : Call (ε × State μ) Unit).outcome start).2.2
        = { start.2 with readings } := by
  rw [Listener.stamp, Call.outcome_modify]
  dsimp only
  split
  · exact ⟨start.2.readings, rfl⟩
  · exact ⟨_, rfl⟩

/-- What a listener does after a hook reads a clock, if it does anything to the interceptor. -/
theorem Listener.exists_readings_after (listener : Listener) (event : Event ε)
    (decision : Decision) (start : ε × State μ)
    : ∃ readings,
        ((listener.after event decision).outcome start).2.2 = { start.2 with readings } := by
  have still : ∃ readings, start.2 = { start.2 with readings } := ⟨start.2.readings, rfl⟩
  cases event with
  | pre write payload =>
      simp only [Listener.after]
      split
      · exact still
      · split
        · rename_i change _
          obtain ⟨readings, stamped⟩ := listener.exists_readings_stamp change start
          refine ⟨readings, ?_⟩
          rw [Call.outcome_bind]
          show ((listener.judge : Call (ε × State μ) Bool).outcome _).2.2 = _
          rw [Listener.outcome_judge, Call.outcome_answer]
          exact stamped
        · exact still
  | saveOrUpdate payload =>
      rcases payload with ⟨entity, session, _ | entry⟩
      · exact listener.exists_readings_stamp AuditStamps.saved start
      · exact still
  | post | preLoad | postLoad | validation => exact still

section

variable {services : Services ε μ} {interceptor : Interceptor ε μ} {made : Requests ε μ}

/-- A listener leaves the interceptor as what its hook asks does, but for the readings. -/
theorem Listener.exists_readings_attend (told : services.Told interceptor.Performs made)
    (listener : Listener) (event : Event ε) (entity : ε) (state : State μ)
    : ∃ readings,
        ((listener.attend services event).outcome (entity, state)).2.2
        = { interceptor.after state
              ((event.callback entity).requests services made entity state) with readings } := by
  have asked
      : _ = interceptor.after state
          ((event.callback entity).requests services made entity state) :=
    interceptor.tells_performs.run told (event.callback entity) entity state
  rw [← asked]
  rcases ends : ((event.callback entity).run services).outcome (entity, state)
    with ⟨stop | cause | decision, reached⟩
  · refine ⟨reached.2.readings, ?_⟩
    simp only [Listener.attend, Listener.callHook, Call.outcome_bind, Call.outcome_get,
      Call.andThen, ends]
  · rw [listener.attend_of_error services event ends]
    exact ⟨reached.2.readings, rfl⟩
  · rw [listener.attend_of_decision services event ends]
    exact listener.exists_readings_after event decision reached

theorem Listener.exists_readings_deliver (told : services.Told interceptor.Performs made)
    (listener : Listener) (announcement : Announcement ε) (state : State μ)
    : ∃ readings,
        ((listener.deliver services).outcome (announcement, state)).2.2
        = { interceptor.after state (announcement.event.requests services made state)
              with readings } := by
  have delivered
      : ((listener.deliver services).outcome (announcement, state)).2.2
        = ((listener.react services).outcome (announcement, state)).2.2 := by
    rw [Listener.deliver, Call.outcome_bind]
    rcases (listener.react services).outcome (announcement, state)
      with ⟨stop | _ | _, last, reached⟩ <;> rfl
  rw [delivered, Listener.outcome_react, Event.requests]
  cases announcement.event.entity with
  | none => exact ⟨state.readings, rfl⟩
  | some entity => exact listener.exists_readings_attend told announcement.event entity state

end

namespace Interceptor

variable {interceptor : Interceptor ε μ}

/-- Looking for the listener of an event is carrying out the operation that it asks for. -/
theorem Silent.outcome_findForWith (silent : interceptor.Silent) (services : Services ε μ)
    (event : Event ε) (state : State μ)
    : ((interceptor.findForWith services event.entity event.factory).outcome state).2
      = ((interceptor.perform event.request).outcome state).2 := by
  unfold Event.request
  cases event.entity with
  | none => rfl
  | some entity =>
      rw [findForWith, silent.findWith_eq services interceptor.services]
      exact (congrArg Prod.snd (Call.outcome_map _ _ state)).symm

/-- An event leaves the interceptor as all that is asked in its course does. -/
theorem Silent.told_dispatchWith (silent : interceptor.Silent) {services : Services ε μ}
    {made : Requests ε μ} (told : services.Told interceptor.Performs made)
    : (interceptor.dispatchWith services).Told interceptor.Performs
        (interceptor.dispatchRequests services made) := by
  intro announcement state
  have asked := silent.outcome_findForWith services announcement.event state
  have dispatched := interceptor.outcome_dispatchWith services announcement state
  rw [dispatchRequests]
  rcases ends : (interceptor.findForWith services announcement.event.entity
      announcement.event.factory).outcome state with ⟨stop | _ | listener, reached⟩
  all_goals rw [ends] at asked dispatched
  case ok.some =>
    obtain ⟨readings, delivered⟩ := listener.exists_readings_deliver told announcement reached
    -- What is left differs from what the hook has left in the readings, and these are listed.
    have left : ((interceptor.dispatchWith services).outcome (announcement, state)).2.2
        = { interceptor.after reached (announcement.event.requests services made reached)
              with readings } := by
      rw [dispatched]
      exact delivered
    dsimp only
    rw [left]
    show _ = interceptor.after ((interceptor.perform announcement.event.request).outcome state).2 _
    rw [← asked, interceptor.after_append]
    rfl
  all_goals
    rw [dispatched]
    exact asked

/-- However deep calls nest, they are answered as what they ask is. -/
theorem Silent.told_servicesTo (silent : interceptor.Silent) (depth : Nat)
    : (interceptor.servicesTo depth).Told interceptor.Performs (interceptor.requestsTo depth) := by
  induction depth with
  | zero => exact ⟨fun _ _ _ => rfl, fun _ _ => rfl, fun _ => rfl, fun _ _ => rfl⟩
  | succ depth ih =>
      -- Calls at this depth may run hooks, whose own calls are answered one level further in.
      refine ⟨fun cls factory state => ?_, fun key state => ?_, fun _ => rfl,
        silent.told_dispatchWith ih⟩
      · show ((interceptor.findWith (interceptor.servicesTo depth) cls factory).outcome state).2
          = ((interceptor.perform (.find (some cls) factory)).outcome state).2
        rw [silent.findWith_eq _ interceptor.services, perform, Call.outcome_map]
        rfl
      · show ((evict key).outcome state).2 = ((interceptor.perform (.evict key)).outcome state).2
        rw [perform, Call.outcome_map]

end Interceptor

end Lifecycle
