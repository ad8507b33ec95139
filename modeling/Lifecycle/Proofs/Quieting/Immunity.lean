import Lifecycle.Proofs.Chronicle.Attendance
import Lifecycle.Proofs.Quieting.Scripts
import Lifecycle.Proofs.Routing.Router

/-! Events whose hooks change the cache. By the time a hook is called its listener has been found, and
nothing that the hook does to the cache takes it away: what becomes of the event is what would have
become of it if the hook had left the cache alone.
-/

namespace Lifecycle

variable {ε μ ν own α : Type}

/-- The same entities, whose hooks leave their calls to the cache out. -/
abbrev Entity.quieted (entities : Entity ε μ) : Entity ε μ :=
  { entities with
    before := fun entity write => (entities.before entity write).quieted
    receive := fun entity notice => (entities.receive entity notice).quieted }

/-- The hook of an event of such an entity. -/
theorem Event.callback_quieted [entities : Entity ε μ] (event : Event ε) (entity : ε)
    : @Event.callback ε μ entities.quieted event entity = (event.callback entity).quieted := by
  cases event with
  | pre | saveOrUpdate => rfl
  | post | preLoad | postLoad | validation => exact (Script.quieted_map _ _).symm

namespace Interceptor

variable {view : μ → ν} (interceptor : Interceptor ε μ)

-----------------------------------------------------------------------------------------
-- Looking for listeners
-----------------------------------------------------------------------------------------

/-- Listeners are looked for alike wherever the calls of discreet checks are answered alike. -/
theorem findWith_eq_of_discreet (discreet : ∀ cls, (interceptor.mapping cls).Discreet view)
    {services services' : Services ε μ} (finds : services.find = services'.find)
    (evicts : services.evict = services'.evict) (clears : services.clear = services'.clear)
    : interceptor.findWith services = interceptor.findWith services' := by
  funext cls factory
  have eligible
      : interceptor.isEligible services cls factory
        = interceptor.isEligible services' cls factory := by
    rw [isEligible, isEligible, (discreet cls).run_eq finds evicts clears]
  rw [findWith, findWith, resolve, resolve, eligible]

/-- No hook is called while listeners are looked for, so it does not matter what hooks do. -/
theorem servicesTo_quieted [entities : Entity ε μ]
    (discreet : ∀ cls, (interceptor.mapping cls).Discreet view) (depth : Nat)
    : let services := interceptor.servicesTo depth
      let services' := @servicesTo ε μ entities.quieted interceptor depth
      services.find = services'.find
      ∧ services.evict = services'.evict
      ∧ services.clear = services'.clear := by
  induction depth with
  | zero => exact ⟨rfl, rfl, rfl⟩
  | succ depth ih =>
      obtain ⟨finds, evicts, clears⟩ := ih
      exact ⟨interceptor.findWith_eq_of_discreet discreet finds evicts clears, rfl, rfl⟩

theorem unseen_isEligible (discreet : ∀ cls, (interceptor.mapping cls).Discreet view)
    {services : Services ε μ} (unseen : services.Unseen view) (cls : EntityClass)
    (factory : Option SessionFactory)
    : (interceptor.isEligible services cls factory).Unseen view := by
  intro state
  have asked := (discreet cls).seems unseen () state
  unfold isEligible
  split
  · simp only [Call.outcome_map, Call.lend, Call.outcome_ofOutcome]
    rcases ends : ((interceptor.mapping cls).run services).outcome ((), state)
      with ⟨stop | answer, mine, reached⟩
    · rwa [ends] at asked
    · rwa [ends] at asked
  · exact .refl view state

theorem unseen_settle (cls : EntityClass) (eligible : Bool)
    : (interceptor.settle cls eligible).Unseen view := by
  intro state
  cases eligible with
  | true => exact ⟨rfl, rfl⟩
  | false => exact ⟨rfl, rfl⟩

theorem unseen_holding (lock : LockId) {call : Call (State μ) α} (unseen : call.Unseen view)
    : (holding lock call).Unseen view := by
  intro state
  have held := unseen state
  rw [holding, Call.outcome_ofOutcome]
  rcases ends : call.outcome state with ⟨(cause | _ | _) | value, reached⟩
  all_goals rw [ends] at held
  · exact held.mapCache (·.release lock false)
  · exact held.mapCache (·.release lock true)
  · exact held
  · exact held.mapCache (·.release lock false)

/-- Looking for a listener is not seen. -/
theorem unseen_findWith (discreet : ∀ cls, (interceptor.mapping cls).Discreet view)
    {services : Services ε μ} (unseen : services.Unseen view) (cls : EntityClass)
    (factory : Option SessionFactory)
    : (interceptor.findWith services cls factory).Unseen view := by
  have resolves
      : (interceptor.isEligible services cls factory >>= interceptor.settle cls).Unseen view :=
    .bind (interceptor.unseen_isEligible discreet unseen cls factory)
      (interceptor.unseen_settle cls)
  intro state
  rw [outcome_findWith]
  split
  · exact (State.Seems.refl view state).mapCache Cache.countHit
  · exact .refl view state
  · exact (unseen_holding _ resolves _).trans ⟨rfl, rfl⟩

/-- A class that is not held is forgotten at once. -/
theorem outcome_evict_of_free {key : ClassKey} {state : State μ}
    (free : state.cache.isHeld key.id = false)
    : (evict key).outcome state
      = (.ok (state.cache.mentions key.id), state.mapCache (·.forget key.id)) := by
  rw [evict, Call.outcome_bind, Call.outcome_get]
  simp only [Call.andThen, free]
  rfl

theorem unseen_evict (key : ClassKey) : (evict key : Call (State μ) Bool).Unseen view := by
  intro state
  cases held : state.cache.isHeld key.id with
  | false =>
      rw [outcome_evict_of_free held]
      exact (State.Seems.refl view state).mapCache (·.forget key.id)
  | true =>
      rw [evict, Call.outcome_bind, Call.outcome_get]
      simp only [Call.andThen, held]
      exact .refl view state

/-- However deep calls nest, those to the cache are not seen. -/
theorem unseen_servicesTo [Entity ε μ] (discreet : ∀ cls, (interceptor.mapping cls).Discreet view)
    (depth : Nat)
    : (interceptor.servicesTo depth).Unseen view := by
  induction depth with
  | zero => exact ⟨fun _ _ => .throw _, fun _ => .throw _, .throw _⟩
  | succ depth ih =>
      exact ⟨interceptor.unseen_findWith discreet ih, unseen_evict,
        fun state => (State.Seems.refl view state).mapCache Cache.clear⟩

-----------------------------------------------------------------------------------------
-- Hooks
-----------------------------------------------------------------------------------------

/-- Everything is in order, and only classes among the given ones are being resolved. -/
structure Engaged (busy : TypeId → Prop) (state : State μ) : Prop where
  tidy : interceptor.Tidy state
  among : ∀ id, state.cache.isHeld id = true → busy id

variable {interceptor} {busy : TypeId → Prop} {state reached : State μ}

/-- Calls that end give back every lock that they take. -/
theorem Engaged.course (engaged : interceptor.Engaged busy state) {deeds : List Deed}
    {ending : Ending} (course : interceptor.Course state deeds ending reached)
    (ends : ending ≠ .hung)
    : interceptor.Engaged busy reached := by
  refine ⟨course.tidy engaged.tidy, fun id held => engaged.among id ?_⟩
  rwa [(course.returns engaged.tidy.paired).free ends] at held

theorem Engaged.remember (engaged : interceptor.Engaged busy state) (memory : μ)
    : interceptor.Engaged busy { state with memory } :=
  engaged.course (.elsewhere state state.readings memory) (by decide)

variable [Entity ε μ]

/-- When a listener has been found no more classes are being resolved than before. -/
theorem Engaged.find (engaged : interceptor.Engaged busy state) {depth : Nat} {cls : EntityClass}
    {factory : Option SessionFactory} {found : Option Listener}
    (finds
      : (interceptor.findWith (interceptor.servicesTo depth) cls factory).outcome state
        = (.ok found, reached))
    : interceptor.Engaged busy reached := by
  have course :=
    interceptor.course_findWith (interceptor.take_servicesTo depth) cls factory state
  rw [finds] at course
  exact engaged.course course (fun hangs => nomatch hangs)

/-- A script that does not care for the answers of its calls ends as without them. If its calls for
listeners are answered then all of them are, since it drops no class that is being resolved.
-/
theorem outcome_quieted (discreet : ∀ cls, (interceptor.mapping cls).Discreet view) {depth : Nat}
    (services : Services ε μ) {script : Script ε μ own α} (indifferent : script.Indifferent view)
    {mine : own} {state state' : State μ} (engaged : interceptor.Engaged busy state)
    (spares : ∀ id, busy id → script.Spares id)
    (returns : script.FindsReturn (interceptor.servicesTo (depth + 1)) mine state)
    (seems : state.Seems view state')
    : let outcome := (script.run (interceptor.servicesTo (depth + 1))).outcome (mine, state)
      let outcome' := (script.quieted.run services).outcome (mine, state')
      outcome.1 = outcome'.1 ∧ Beside id (State.Seems view) outcome.2 outcome'.2 := by
  induction script generalizing mine state state' with
  | done | panic => exact ⟨rfl, rfl, seems⟩
  | access change next ih =>
      obtain ⟨alike, rest⟩ := indifferent
      obtain ⟨own, shared, same⟩ := alike mine state.memory state'.memory seems.memory
      simp only [Script.quieted, Script.run, Call.outcome_bind, Call.outcome_get, Call.andThen,
        Call.outcome_set]
      rw [← same, ← own]
      exact ih _ (rest _) (engaged.remember _) (fun id held => spares id held _) returns
        ⟨seems.readings, shared⟩
  | find cls factory next ih =>
      obtain ⟨found, reached, answers, later⟩ := returns
      obtain ⟨same, rest⟩ := indifferent found
      have unseen := (interceptor.unseen_servicesTo discreet (depth + 1)).find cls factory state
      rw [answers] at unseen
      simp only [Script.quieted, Script.run, Call.outcome_bind, Call.onSecond,
        Call.outcome_ofOutcome, answers, Call.andThen]
      rw [← same]
      exact ih found rest (engaged.find answers) (fun id held => spares id held found) later
        (unseen.trans seems)
  | evict key next ih =>
      obtain ⟨same, rest⟩ := indifferent (state.cache.mentions key.id)
      have free : state.cache.isHeld key.id = false :=
        Bool.eq_false_iff.mpr (fun held => (spares _ (engaged.among _ held)).1 rfl)
      have answers := outcome_evict_of_free free
      simp only [Script.quieted, Script.run, Call.outcome_bind, Call.onSecond,
        Call.outcome_ofOutcome, servicesTo, answers, Call.andThen]
      rw [← same]
      exact ih _ rest (engaged.course (.evicts free) (by decide))
        (fun id held => (spares id held).2 _) (returns _ _ answers)
        (seems.mapCache (·.forget key.id))
  | clear next ih =>
      exact ih indifferent (engaged.course (.clears state) (by decide)) spares (returns _ rfl)
        (seems.mapCache Cache.clear)
  | dispatch announcement next ih => exact indifferent.elim

end Interceptor

namespace Listener

variable [entities : Entity ε μ] {view : μ → ν} (listener : Listener)

/-- Stamping an entity depends on the clocks alone. -/
theorem agrees_stamp (change : Instant → AuditStamps → AuditStamps)
    : (listener.stamp change : Call (ε × State μ) Unit).Agrees (Beside id (State.Seems view))
        (listener.stamp change) := by
  intro (entity, state) (entity', state') beside
  obtain ⟨rfl, seems⟩ : entity = entity' ∧ state.Seems view state' := beside
  cases shown : Entity.stamps entity with
  | none =>
      rw [listener.outcome_stamp_of_none change shown, listener.outcome_stamp_of_none change shown]
      exact ⟨rfl, rfl, seems⟩
  | some old =>
      rw [listener.outcome_stamp_of_stamps change shown,
        listener.outcome_stamp_of_stamps change shown]
      dsimp only
      rw [seems.readings]
      exact ⟨rfl, rfl, rfl, seems.memory⟩

theorem agrees_judge
    : (listener.judge : Call (ε × State μ) Bool).Agrees (Beside id (State.Seems view))
        listener.judge := by
  refine .look (fun entity => Call.answer (listener.judgement entity))
    (fun entity => Call.answer (listener.judgement entity)) listener.outcome_judge
    listener.outcome_judge (fun entity => .answer _)

/-- What follows a hook depends on the clocks alone. -/
theorem agrees_after (event : Event ε) (decision : Decision)
    : (listener.after event decision : Call (ε × State μ) Bool).Agrees
        (Beside id (State.Seems view)) (listener.after event decision) := by
  cases event with
  | pre write payload =>
      simp only [after]
      split
      · exact .pure true
      · split
        · exact .bind (listener.agrees_stamp _) (fun _ => listener.agrees_judge)
        · exact .pure false
  | saveOrUpdate payload =>
      refine .bind ?_ (fun _ => .pure false)
      simp only [onSave]
      split
      · exact .pure ()
      · exact listener.agrees_stamp _
  | post | preLoad | postLoad | validation => exact .pure false

/-- What follows a hook is the same whether or not hooks call the cache. -/
theorem after_quieted (event : Event ε) (decision : Decision)
    : @after ε μ entities.quieted listener event decision = listener.after event decision := by
  cases event <;> rfl

/-- A listener attends to an entity as it would if the hook left the cache alone. -/
theorem attend_quieted {event : Event ε} {entity : ε} {services services' : Services ε μ}
    {state state' : State μ}
    (hooks
      : let outcome := ((event.callback entity).run services).outcome (entity, state)
        let outcome' := ((event.callback entity).quieted.run services').outcome (entity, state')
        outcome.1 = outcome'.1 ∧ Beside id (State.Seems view) outcome.2 outcome'.2)
    : let outcome := (listener.attend services event).outcome (entity, state)
      let outcome' :=
        (@attend ε μ entities.quieted listener services' event).outcome (entity, state')
      outcome.1 = outcome'.1 ∧ Beside id (State.Seems view) outcome.2 outcome'.2 := by
  rw [← Event.callback_quieted] at hooks
  rcases ends : ((event.callback entity).run services).outcome (entity, state)
    with ⟨answer, hooked, reached⟩
  rcases ends' : ((@Event.callback ε μ entities.quieted event entity).run services').outcome
      (entity, state') with ⟨answer', hooked', reached'⟩
  rw [ends, ends'] at hooks
  obtain ⟨rfl, rfl, seems⟩ : answer = answer' ∧ hooked = hooked' ∧ reached.Seems view reached' :=
    hooks
  rcases answer with stop | cause | decision
  · rw [attend_of_stop listener services event ends,
      @attend_of_stop ε μ entities.quieted listener services' event _ _ _ ends']
    exact ⟨rfl, rfl, seems⟩
  · rw [attend_of_error listener services event ends,
      @attend_of_error ε μ entities.quieted listener services' event _ _ _ ends']
    exact ⟨rfl, rfl, seems⟩
  · rw [attend_of_decision listener services event ends,
      @attend_of_decision ε μ entities.quieted listener services' event _ _ _ ends',
      after_quieted]
    exact listener.agrees_after event decision _ _ ⟨rfl, seems⟩

end Listener

-----------------------------------------------------------------------------------------
-- Events
-----------------------------------------------------------------------------------------

/-- An announcement is finished alike if its entity has been attended to alike. -/
theorem Announcement.agrees_finish {view : μ → ν} (announcement : Announcement ε)
    {one other : Except Stop Bool × ε × State μ}
    (alike : one.1 = other.1 ∧ Beside id (State.Seems view) one.2 other.2)
    : (announcement.finish one).1 = (announcement.finish other).1
      ∧ Beside id (State.Seems view) (announcement.finish one).2 (announcement.finish other).2 := by
  obtain ⟨result, last, reached⟩ := one
  obtain ⟨result', last', reached'⟩ := other
  obtain ⟨rfl, rfl, seems⟩ : result = result' ∧ last = last' ∧ reached.Seems view reached' := alike
  exact ⟨rfl, rfl, seems⟩

namespace Interceptor

variable [entities : Entity ε μ] {view : μ → ν} (interceptor : Interceptor ε μ)

/-- The listener of an entity is looked for alike, whatever hooks do. -/
theorem findForWith_quieted (discreet : ∀ cls, (interceptor.mapping cls).Discreet view)
    {services services' : Services ε μ} (finds : services.find = services'.find)
    (evicts : services.evict = services'.evict) (clears : services.clear = services'.clear)
    (entity : Option ε) (factory : Option SessionFactory)
    : @findForWith ε μ entities.quieted interceptor services' entity factory
      = interceptor.findForWith services entity factory := by
  have same := interceptor.findWith_eq_of_discreet discreet finds evicts clears
  cases entity with
  | none => rfl
  | some entity =>
      show interceptor.findWith services' (entities.cls entity) factory
        = interceptor.findWith services (entities.cls entity) factory
      rw [same]

/-- An event is dispatched alike if its listener is the same and its hook does the same, whatever is
called besides.
-/
theorem dispatchWith_quieted {services services' : Services ε μ} {announcement : Announcement ε}
    {state : State μ} {found : Except Stop (Option Listener) × State μ}
    (finds
      : (interceptor.findForWith services announcement.event.entity
          announcement.event.factory).outcome state = found)
    (finds'
      : (@findForWith ε μ entities.quieted interceptor services' announcement.event.entity
          announcement.event.factory).outcome state = found)
    (hooks
      : ∀ entity listener reached,
          announcement.event.entity = some entity
          → found = (.ok (some listener), reached)
          → let hook := announcement.event.callback entity
            let outcome := (hook.run services).outcome (entity, reached)
            let outcome' := (hook.quieted.run services').outcome (entity, reached)
            outcome.1 = outcome'.1 ∧ Beside id (State.Seems view) outcome.2 outcome'.2)
    : let outcome := (interceptor.dispatchWith services).outcome (announcement, state)
      let outcome' :=
        (@dispatchWith ε μ entities.quieted interceptor services').outcome (announcement, state)
      outcome.1 = outcome'.1 ∧ Beside id (State.Seems view) outcome.2 outcome'.2 := by
  rw [outcome_dispatchWith, @outcome_dispatchWith ε μ entities.quieted, finds, finds']
  rcases found with ⟨stop | _ | listener, reached⟩
  · simp only [resume]
    exact ⟨trivial, rfl, .refl view reached⟩
  · simp only [resume]
    exact ⟨trivial, rfl, .refl view reached⟩
  · cases carried : announcement.event.entity with
    | none =>
        rw [carried] at finds
        cases finds
    | some entity =>
        simp only [resume]
        rw [listener.outcome_deliver services carried,
          @Listener.outcome_deliver ε μ entities.quieted listener services' _ _ carried]
        exact announcement.agrees_finish
          (listener.attend_quieted (hooks entity listener reached carried rfl))

/-- The listener that is found for an event judges what has become of the entity, if its hook has let
a write go on; otherwise the hook has decided.
-/
theorem judged_of_decision {services : Services ε μ} {announcement : Announcement ε}
    {state : State μ} {entity : ε} {listener : Listener} {reached : State μ}
    {decision : Decision} (carried : announcement.event.entity = some entity)
    (finds
      : (interceptor.findForWith services announcement.event.entity
          announcement.event.factory).outcome state = (.ok (some listener), reached))
    (decides
      : (((announcement.event.callback entity).run services).outcome (entity, reached)).1
        = .ok (.ok decision))
    : let dispatched := (interceptor.dispatchWith services).outcome (announcement, state)
      let kind := announcement.event.kind
      ∃ last,
        let judged :=
          if kind.isJudged && !decision.isVeto then (listener.judgement last).mapError .failed
          else .ok (kind.isCancellable && decision.isVeto)
        dispatched.2.1.event.entity = some last
        ∧ dispatched.1 = judged.map (fun _ => ())
        ∧ dispatched.2.1.cancelled = (announcement.cancelled || judged.toOption.any id) := by
  rw [outcome_dispatchWith, finds]
  simp only [resume]
  rw [listener.outcome_deliver services carried,
    listener.attend_of_decision services announcement.event (Prod.ext decides rfl)]
  have judges := listener.after_eq announcement.event decision
    (((announcement.event.callback entity).run services).outcome (entity, reached)).2
  generalize (listener.after announcement.event decision).outcome _ = ended at judges
  refine ⟨ended.2.1, ?_, ?_, ?_⟩
  · simp [Announcement.finish, carried]
  · rw [← judges]
    rfl
  · rw [← judges]
    rfl

/-- What becomes of an event is what would have become of it if its hook had left the cache alone. The
hook may look for listeners, and evict and clear what it likes, its own listener included, as long
as it goes on in the same way whatever it is answered and the listeners it looks for are answered at
all; the mapping neither dispatches events of its own nor changes what the hook sees of the memory.
Only if the event is announced from inside a resolution must its hook not evict the class that is
being resolved, for which it would wait for ever. Then the listener is found before the hook is
called and is the same; the dispatch gives the same result and leaves the same of the event, its
entity and that entity's stamps; the clocks have been read as often; and it is the listener that was
found, and no other, that judges what has become of the entity.
-/
theorem dispatch_immune_to_hook {state : State μ} (reachable : interceptor.Reachable state)
    (discreet : ∀ cls, (interceptor.mapping cls).Discreet view) (depth : Nat)
    (announcement : Announcement ε)
    (indifferent
      : ∀ entity,
          announcement.event.entity = some entity
          → (announcement.event.callback entity).Indifferent view)
    (spares
      : ∀ entity id,
          announcement.event.entity = some entity
          → state.cache.isHeld id = true
          → (announcement.event.callback entity).Spares id)
    (returns
      : ∀ entity listener reached,
          announcement.event.entity = some entity
          → (interceptor.findForWith (interceptor.servicesTo (depth + 1))
                announcement.event.entity announcement.event.factory).outcome state
              = (.ok (some listener), reached)
          → (announcement.event.callback entity).FindsReturn
              (interceptor.servicesTo (depth + 1)) entity reached)
    : let event := announcement.event
      let services := interceptor.servicesTo (depth + 1)
      let services' := @servicesTo ε μ entities.quieted interceptor (depth + 1)
      let found := (interceptor.findForWith services event.entity event.factory).outcome state
      let found' :=
        (@findForWith ε μ entities.quieted interceptor services' event.entity
          event.factory).outcome state
      let dispatched := (interceptor.dispatchWith services).outcome (announcement, state)
      let dispatched' :=
        (@dispatchWith ε μ entities.quieted interceptor services').outcome (announcement, state)
      found = found'
      ∧ dispatched.1 = dispatched'.1
      ∧ dispatched.2.1 = dispatched'.2.1
      ∧ dispatched.2.2.readings = dispatched'.2.2.readings
      ∧ ∀ entity listener decision,
          event.entity = some entity
          → found.1 = .ok (some listener)
          → (((event.callback entity).run services).outcome (entity, found.2)).1
              = .ok (.ok decision)
          → ∃ last,
              let judged :=
                if event.kind.isJudged && !decision.isVeto then
                  (listener.judgement last).mapError .failed
                else .ok (event.kind.isCancellable && decision.isVeto)
              dispatched.2.1.event.entity = some last
              ∧ dispatched.1 = judged.map (fun _ => ())
              ∧ dispatched.2.1.cancelled
                = (announcement.cancelled || judged.toOption.any id) := by
  intro event services services' found found' dispatched dispatched'
  have agree := interceptor.servicesTo_quieted discreet (depth + 1)
  have finds : found = found' :=
    (congrArg (fun call => call.outcome state)
      (interceptor.findForWith_quieted discreet agree.1 agree.2.1 agree.2.2 event.entity
        event.factory)).symm
  have engaged {entity : ε} {listener : Listener} {reached : State μ}
      (carried : event.entity = some entity) (finds : found = (.ok (some listener), reached))
      : interceptor.Engaged (fun id => state.cache.isHeld id = true) reached := by
    simp only [found, carried, findForWith] at finds
    exact Engaged.find ⟨reachable.tidy, fun _ held => held⟩ finds
  obtain ⟨result, left, seems⟩ :=
    interceptor.dispatchWith_quieted rfl finds.symm
      (fun entity listener reached carried finds =>
        outcome_quieted discreet services' (indifferent entity carried) (engaged carried finds)
          (fun id => spares entity id carried) (returns entity listener reached carried finds)
          (.refl view reached))
  refine ⟨finds, result, left, seems.readings, ?_⟩
  intro entity listener decision carried finds decides
  exact interceptor.judged_of_decision carried (Prod.ext finds rfl) decides

end Interceptor

namespace Scenario

/-- A parcel that is weighed before it is sent. -/
structure Parcel where
  recorded : AuditStamps
  weight : Nat

def parcels : EntityClass := ⟨⟨5, "depot::Parcel"⟩, false⟩

/-- Before a parcel is written it has its own listener dropped and made anew, and then everything
forgotten, and only then is it emptied. The memory counts how often the mapping is asked.
-/
instance : Entity Parcel Nat where
  cls _ := parcels
  stamps parcel := some parcel.recorded
  withStamps parcel stamps := { parcel with recorded := stamps }
  autoValidate _ := true
  validationErrors parcel := if parcel.weight = 0 then ["empty"] else []
  before _ _ :=
    .evict parcels.key (fun _ =>
      .find parcels none (fun _ =>
        .clear
          (.access (fun (parcel, checks) => ({ parcel with weight := 0 }, checks))
            (fun _ => .done (.ok .proceed)))))
  receive _ _ := .done (.ok ())

/-- The interceptor of a depot, which is strict and counts its checks. -/
def depot : Interceptor Parcel Nat where
  home := ⟨0, "main"⟩
  config := ⟨true, []⟩
  mapping _ := .access (fun (_, checks) => ((), checks + 1)) (fun _ => .done true)
  nesting := 1

def ship : Announcement Parcel := .of (.pre .insert ⟨some ⟨⟨none, none⟩, 3⟩, ⟨"Parcel", depot.home⟩⟩)

/-- A parcel that drops its own listener is stamped once and rejected by that listener all the same,
although two listeners are made and none is left.
-/
theorem dispatch_immune_to_hook_depot
    : let state : State Nat := .initial (.ticking 0 100 5) 0
      let dispatched := (depot.dispatchWith (depot.servicesTo 1)).outcome (ship, state)
      dispatched.1 = .error (.failed (.validation "depot::Parcel" ["empty"]))
      ∧ dispatched.2.1.event.entity.map Parcel.recorded = some ⟨some 100, some 100⟩
      ∧ dispatched.2.2.readings.count (.ticking 0 100 5) = 1
      ∧ dispatched.2.2.cache.stats.listenersCreated = 2
      ∧ dispatched.2.2.cache.stats.cachedListeners = 0 := by
  intro state dispatched
  have discreet (cls : EntityClass) : (depot.mapping cls).Discreet (fun _ => ()) :=
    ⟨fun _ _ => rfl, fun _ => trivial⟩
  have indifferent (parcel : Parcel)
      : (ship.event.callback parcel).Indifferent (fun _ : Nat => ()) := by
    refine fun _ => ⟨rfl, fun _ => ⟨rfl, ?_, fun _ => trivial⟩⟩
    exact fun _ _ _ _ => ⟨rfl, rfl, rfl⟩
  have returns (parcel : Parcel) (listener : Listener) (reached : State Nat)
      (_ : ship.event.entity = some parcel)
      (finds
        : (depot.findForWith (depot.servicesTo 1) ship.event.entity ship.event.factory).outcome state
          = (.ok (some listener), reached))
      : (ship.event.callback parcel).FindsReturn (depot.servicesTo 1) parcel reached := by
    obtain rfl := congrArg Prod.snd finds
    intro dropped after evicts
    obtain rfl := congrArg Prod.snd evicts
    exact ⟨_, _, rfl, fun _ _ => trivial⟩
  obtain ⟨-, result, left, readings, -⟩ :=
    depot.dispatch_immune_to_hook (.initial (.ticking 0 100 5) 0 : depot.Reachable state)
      discreet 0 ship (fun parcel _ => indifferent parcel)
      (fun _ _ _ held => nomatch held) returns
  refine ⟨result.trans rfl, ?_, ?_, by decide +kernel, by decide +kernel⟩
  · rw [left]
    decide +kernel
  · rw [readings]
    decide +kernel

end Scenario

end Lifecycle
