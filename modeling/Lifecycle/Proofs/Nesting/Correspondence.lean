import Lifecycle.Proofs.Resolution.Reactions

/-! Calls that come to the same on two sides. The entities of one side stand for those of the other,
and its states are similar to those of the other; scripts are translated from one side to the other.
Whatever is built from scripts then comes to the same on both sides: what a listener does with an
event, and how an event is dispatched.
-/

namespace Lifecycle

-----------------------------------------------------------------------------------------
-- Calls that come to the same
-----------------------------------------------------------------------------------------

variable {ε δ μ own own' α β : Type}

/-- From states that belong together the calls give the same answer and lead to states that belong
together.
-/
def Call.Agrees {σ τ : Type} (belong : σ → τ → Prop) (one : Call σ α) (other : Call τ α) : Prop :=
  ∀ start start',
    belong start start'
    → (one.outcome start).1 = (other.outcome start').1
      ∧ belong (one.outcome start).2 (other.outcome start').2

/-- The one is seen as the other, and the states beside them are similar. -/
def Beside (view : own → own') (similar : State μ → State μ → Prop) (one : own × State μ)
    (other : own' × State μ) : Prop :=
  view one.1 = other.1 ∧ similar one.2 other.2

namespace Call.Agrees

section

variable {σ τ : Type} {belong : σ → τ → Prop}

theorem refl (call : Call σ α) : call.Agrees Eq call := by
  intro start start' same
  subst same
  exact ⟨rfl, rfl⟩

theorem pure (value : α)
    : (Pure.pure value : Call σ α).Agrees belong (Pure.pure value : Call τ α) :=
  fun _ _ belongs => ⟨rfl, belongs⟩

theorem throw (stop : Stop)
    : (MonadExcept.throw stop : Call σ α).Agrees belong (MonadExcept.throw stop : Call τ α) :=
  fun _ _ belongs => ⟨rfl, belongs⟩

theorem answer (result : Except Failure α)
    : (Call.answer result : Call σ α).Agrees belong (Call.answer result : Call τ α) := by
  cases result with
  | ok value => exact .pure value
  | error cause => exact .throw _

/-- What follows the calls is the same, since they give the same answer. -/
theorem bind {one : Call σ α} {other : Call τ α} {next : α → Call σ β} {next' : α → Call τ β}
    (first : one.Agrees belong other) (rest : ∀ value, (next value).Agrees belong (next' value))
    : (one >>= next).Agrees belong (other >>= next') := by
  intro start start' belongs
  obtain ⟨same, reached⟩ := first start start' belongs
  rw [Call.outcome_bind, Call.outcome_bind]
  rcases ends : one.outcome start with ⟨result, middle⟩
  rcases ends' : other.outcome start' with ⟨result', middle'⟩
  rw [ends, ends'] at same reached
  obtain rfl : result = result' := same
  cases result with
  | ok value => exact rest value middle middle' reached
  | error stop => exact ⟨rfl, reached⟩

theorem map {one : Call σ α} {other : Call τ α} (agrees : one.Agrees belong other)
    (change : α → β)
    : (change <$> one).Agrees belong (change <$> other) := by
  rw [map_eq_pure_bind, map_eq_pure_bind]
  exact .bind agrees (fun _ => .pure _)

end

variable {similar : State μ → State μ → Prop} {view : own → own'}

theorem onSecond {one other : Call (State μ) α} (agrees : one.Agrees similar other)
    : one.onSecond.Agrees (Beside view similar) other.onSecond := by
  intro start start' beside
  obtain ⟨same, reached⟩ := agrees start.2 start'.2 beside.2
  exact ⟨same, beside.1, reached⟩

/-- Calls that are lent what is seen as the same come to the same, apart from what they give back.
-/
theorem lend {one : Call (own × State μ) α} {other : Call (own' × State μ) α}
    (agrees : one.Agrees (Beside view similar) other) (first : own)
    : (Prod.fst <$> one.lend first).Agrees similar (Prod.fst <$> other.lend (view first)) := by
  intro start start' similar
  obtain ⟨same, reached⟩ := agrees (first, start) (view first, start') ⟨rfl, similar⟩
  rw [Call.outcome_map, Call.outcome_map]
  simp only [Call.lend, Call.outcome_ofOutcome]
  rcases ends : one.outcome (first, start) with ⟨result, mine, middle⟩
  rcases ends' : other.outcome (view first, start') with ⟨result', mine', middle'⟩
  rw [ends, ends'] at same reached
  obtain rfl : result = result' := same
  cases result with
  | ok value => exact ⟨rfl, reached.2⟩
  | error stop => exact ⟨rfl, reached.2⟩

/-- Calls that look at their own parts alone, and go on from there. -/
theorem look {one : Call (own × State μ) α} {other : Call (own' × State μ) α}
    (next : own → Call (own × State μ) α) (next' : own' → Call (own' × State μ) α)
    (looks : ∀ start, one.outcome start = (next start.1).outcome start)
    (looks' : ∀ start, other.outcome start = (next' start.1).outcome start)
    (agrees : ∀ mine, (next mine).Agrees (Beside view similar) (next' (view mine)))
    : one.Agrees (Beside view similar) other := by
  intro start start' beside
  rw [looks, looks', ← beside.1]
  exact agrees start.1 start start' beside

end Call.Agrees

-----------------------------------------------------------------------------------------
-- Scripts
-----------------------------------------------------------------------------------------

/-- The script on the other side. It works on a part of what it is given there, and the entities
that it announces are put in the place of its own.
-/
def Script.translate (embed : ε → δ) (back : δ → ε) (view : own' → own)
    (put : own → own' → own') : Script ε μ own α → Script δ μ own' α
  | .done value => .done value
  | .panic => .panic
  | .access change next =>
      .access
        (fun (mine, memory) =>
          let (part, memory) := change (view mine, memory)
          (put part mine, memory))
        (fun (mine, memory) => (next (view mine, memory)).translate embed back view put)
  | .find cls factory next =>
      .find cls factory (fun found => (next found).translate embed back view put)
  | .evict key next => .evict key (fun dropped => (next dropped).translate embed back view put)
  | .clear next => .clear (next.translate embed back view put)
  | .dispatch announcement next =>
      .dispatch (announcement.map embed)
        (fun result reached => (next result (reached.map back)).translate embed back view put)

/-- A script that is translated to its own side stays as it is. -/
theorem Script.translate_id (script : Script ε μ own α)
    : script.translate id id id (fun mine _ => mine) = script := by
  induction script with
  | done value => rfl
  | panic => rfl
  | access change next ih => exact congrArg (Script.access change) (funext ih)
  | find cls factory next ih => exact congrArg (Script.find cls factory) (funext ih)
  | evict key next ih => exact congrArg (Script.evict key) (funext ih)
  | clear next ih => exact congrArg Script.clear ih
  | dispatch announcement next ih =>
      rw [translate, announcement.map_id]
      refine congrArg (Script.dispatch announcement) (funext fun result => funext fun reached => ?_)
      rw [reached.map_id]
      exact ih result reached

/-- Similar states show the same to code that does not look at the cache, and stay similar when it
changes the same.
-/
structure State.Similarity (similar : State μ → State μ → Prop) : Prop where
  memory : ∀ {one other}, similar one other → one.memory = other.memory
  readings : ∀ {one other}, similar one other → one.readings = other.readings
  remember
    : ∀ {one other},
        similar one other → ∀ memory, similar { one with memory } { other with memory }
  read
    : ∀ {one other},
        similar one other → ∀ readings, similar { one with readings } { other with readings }

/-- The calls of scripts are answered alike on both sides. -/
structure Services.Agree (back : δ → ε) (similar : State μ → State μ → Prop)
    (copy : Services δ μ) (services : Services ε μ) : Prop where
  find : ∀ cls factory, (copy.find cls factory).Agrees similar (services.find cls factory)
  evict : ∀ key, (copy.evict key).Agrees similar (services.evict key)
  clear : copy.clear.Agrees similar services.clear
  dispatch : copy.dispatch.Agrees (Beside (Announcement.map back) similar) services.dispatch

section Sides

variable {similar : State μ → State μ → Prop} {copy : Services δ μ} {services : Services ε μ}
  {embed : ε → δ} {back : δ → ε}

namespace Call.Agrees

/-- A script that is translated comes to the same as the script. -/
theorem run (similarity : State.Similarity similar) (agree : copy.Agree back similar services)
    (round : back ∘ embed = id) (view : own' → own) (put : own → own' → own')
    (law : ∀ part mine, view (put part mine) = part) (script : Script ε μ own α)
    : ((script.translate embed back view put).run copy).Agrees (Beside view similar)
        (script.run services) := by
  induction script with
  | done value => exact .pure value
  | panic => exact .throw _
  | access change next ih =>
      intro start start' beside
      obtain ⟨mine, one⟩ := start
      obtain ⟨part, other⟩ := start'
      obtain ⟨rfl, alike⟩ : view mine = part ∧ similar one other := beside
      simp only [Script.translate, Script.run, Call.outcome_bind, Call.outcome_get, Call.andThen,
        Call.outcome_set, law]
      rw [← similarity.memory alike]
      exact ih _ (_, _) (_, _) ⟨law _ _, similarity.remember alike _⟩
  | find cls factory next ih => exact .bind (.onSecond (agree.find cls factory)) ih
  | evict key next ih => exact .bind (.onSecond (agree.evict key)) ih
  | clear next ih => exact .bind (.onSecond agree.clear) (fun _ => ih)
  | dispatch announcement next ih =>
      intro start start' beside
      obtain ⟨same, own, reached⟩ :=
        agree.dispatch (announcement.map embed, start.2) (announcement, start'.2)
          ⟨by rw [announcement.map_map, round, announcement.map_id], beside.2⟩
      simp only [Script.translate, Script.run, Call.outcome_bind, Call.onSecond, Call.lend,
        Call.attempt, Call.outcome_ofOutcome]
      rcases ends : copy.dispatch.outcome (announcement.map embed, start.2)
        with ⟨result, shown, middle⟩
      rcases ends' : services.dispatch.outcome (announcement, start'.2)
        with ⟨result', shown', middle'⟩
      rw [ends, ends'] at same own reached
      obtain rfl : result = result' := same
      obtain rfl : shown.map back = shown' := own
      rcases result with (cause | _ | _) | value
      · exact ih (.error cause) _ _ _ ⟨beside.1, reached⟩
      · exact ⟨rfl, beside.1, reached⟩
      · exact ⟨rfl, beside.1, reached⟩
      · exact ih (.ok value) _ _ _ ⟨beside.1, reached⟩

end Call.Agrees

variable [Entity δ μ] [Entity ε μ]

/-- The entities of one side are seen as those of the other, and their hooks come to the same. -/
structure Corresponds (back : δ → ε) (similar : State μ → State μ → Prop) (copy : Services δ μ)
    (services : Services ε μ) : Prop where
  cls : ∀ mine : δ, (Entity.cls mine : EntityClass) = Entity.cls (back mine)
  stamps : ∀ mine : δ, Entity.stamps mine = Entity.stamps (back mine)
  withStamps
    : ∀ (mine : δ) stamps,
        back (Entity.withStamps mine stamps) = Entity.withStamps (back mine) stamps
  judgement
    : ∀ (listener : Listener) (mine : δ),
        listener.judgement mine = listener.judgement (back mine)
  before
    : ∀ (mine : δ) write,
        ((Entity.before mine write).run copy).Agrees (Beside back similar)
          ((Entity.before (back mine) write).run services)
  receive
    : ∀ (mine : δ) notice,
        ((Entity.receive mine notice).run copy).Agrees (Beside back similar)
          ((Entity.receive (back mine) notice).run services)

namespace Call.Agrees

omit [Entity δ μ] [Entity ε μ] in
/-- Hooks that come to the same are called alike. -/
theorem callHook {script : δ → Script δ μ δ (Except Failure α)}
    {script' : ε → Script ε μ ε (Except Failure α)}
    (agrees
      : ∀ mine,
          ((script mine).run copy).Agrees (Beside back similar)
            ((script' (back mine)).run services))
    : (Listener.callHook copy script).Agrees (Beside back similar)
        (Listener.callHook services script') :=
  .look (fun mine => (script mine).run copy >>= fun result => Call.answer result)
    (fun entity => (script' entity).run services >>= fun result => Call.answer result)
    (fun _ => Call.outcome_bind ..) (fun _ => Call.outcome_bind ..)
    (fun mine => .bind (agrees mine) (fun _ => .answer _))

theorem stamp (similarity : State.Similarity similar)
    (corresponds : Corresponds back similar copy services) (listener : Listener)
    (change : Instant → AuditStamps → AuditStamps)
    : (listener.stamp change : Call (δ × State μ) Unit).Agrees (Beside back similar)
        (listener.stamp change) := by
  intro start start' beside
  obtain ⟨mine, state⟩ := start
  obtain ⟨entity, state'⟩ := start'
  obtain ⟨rfl, alike⟩ : back mine = entity ∧ similar state state' := beside
  rw [Listener.stamp, Listener.stamp, Call.outcome_modify, Call.outcome_modify]
  dsimp only
  rw [corresponds.stamps]
  cases Entity.stamps (back mine) with
  | none => exact ⟨rfl, rfl, alike⟩
  | some stamps =>
      rw [← similarity.readings alike]
      exact ⟨rfl, corresponds.withStamps _ _, similarity.read alike _⟩

theorem judge (corresponds : Corresponds back similar copy services) (listener : Listener)
    : (listener.judge : Call (δ × State μ) Bool).Agrees (Beside back similar) listener.judge := by
  refine .look (fun mine => Call.answer (listener.judgement mine))
    (fun entity => Call.answer (listener.judgement entity)) listener.outcome_judge
    listener.outcome_judge (fun mine => ?_)
  rw [corresponds.judgement]
  exact .answer _

/-- The hooks of corresponding events come to the same. -/
theorem callback (corresponds : Corresponds back similar copy services) (event : Event δ)
    (mine : δ)
    : ((event.callback mine).run copy).Agrees (Beside back similar)
        (((event.map back).callback (back mine)).run services) := by
  have told (notice : Notice)
      : ((notice.callback mine).run copy).Agrees (Beside back similar)
          ((notice.callback (back mine)).run services) := by
    intro start start' beside
    obtain ⟨same, reached⟩ := corresponds.receive mine notice start start' beside
    rw [Notice.callback, Notice.callback, Script.outcome_run_map, Script.outcome_run_map, same]
    exact ⟨rfl, reached⟩
  cases event with
  | pre write payload => exact corresponds.before mine write
  | saveOrUpdate payload => exact .pure _
  | post | preLoad | postLoad | validation => exact told _

/-- What follows the hooks of corresponding events comes to the same. -/
theorem after (similarity : State.Similarity similar)
    (corresponds : Corresponds back similar copy services) (listener : Listener) (event : Event δ)
    (decision : Decision)
    : (listener.after event decision).Agrees (Beside back similar)
        (listener.after (event.map back) decision) := by
  have stamp (change : Instant → AuditStamps → AuditStamps) :=
    stamp similarity corresponds listener change
  cases event with
  | pre write payload =>
      simp only [Listener.after, Event.map]
      split
      · exact .pure true
      · split
        · exact .bind (stamp _) (fun _ => .judge corresponds listener)
        · exact .pure false
  | saveOrUpdate payload =>
      refine .bind ?_ (fun _ => .pure false)
      simp only [Listener.onSave, Payload.map]
      split
      · exact .pure ()
      · exact stamp _
  | post | preLoad | postLoad | validation => exact .pure false

omit [Entity δ μ] [Entity ε μ] in
/-- Attending to corresponding entities leaves their events corresponding. -/
theorem conclude (announcement : Announcement δ) {one : Except Stop Bool × δ × State μ}
    {other : Except Stop Bool × ε × State μ} (same : one.1 = other.1)
    (beside : Beside back similar one.2 other.2)
    : (announcement.conclude one).1 = ((announcement.map back).conclude other).1
      ∧ Beside (Announcement.map back) similar (announcement.conclude one).2
          ((announcement.map back).conclude other).2 := by
  obtain ⟨result, last, reached⟩ := one
  obtain ⟨result', last', reached'⟩ := other
  obtain ⟨rfl, alike⟩ : back last = last' ∧ similar reached reached' := beside
  refine ⟨same, congrArg (Announcement.mk · announcement.cancelled) ?_, alike⟩
  exact (announcement.event.map_map (fun _ => last) back).trans
    (announcement.event.map_map back (fun _ => back last)).symm

/-- A listener reacts alike to corresponding events. -/
theorem react (similarity : State.Similarity similar)
    (corresponds : Corresponds back similar copy services) (listener : Listener)
    : (listener.react copy).Agrees (Beside (Announcement.map back) similar)
        (listener.react services) := by
  intro start start' beside
  obtain ⟨announcement, state⟩ := start
  obtain ⟨announcement', state'⟩ := start'
  obtain ⟨rfl, alike⟩ : announcement.map back = announcement' ∧ similar state state' := beside
  have carried
      : (announcement.map back).event.entity = announcement.event.entity.map back :=
    announcement.event.entity_map back
  have attends
      : (listener.attend copy announcement.event).Agrees (Beside back similar)
          (listener.attend services (announcement.event.map back)) :=
    .bind (.callHook (callback corresponds announcement.event))
      (.after similarity corresponds listener _)
  rw [Listener.outcome_react, Listener.outcome_react, carried]
  cases announcement.event.entity with
  | none => exact ⟨rfl, rfl, alike⟩
  | some mine =>
      obtain ⟨same, reached⟩ := attends (mine, state) (back mine, state') ⟨rfl, alike⟩
      exact conclude announcement same reached

theorem deliver (similarity : State.Similarity similar)
    (corresponds : Corresponds back similar copy services) (listener : Listener)
    : (listener.deliver copy).Agrees (Beside (Announcement.map back) similar)
        (listener.deliver services) := by
  refine .bind (.react similarity corresponds listener) (fun skipped => ?_)
  split
  · intro start start' beside
    exact ⟨rfl, congrArg Announcement.cancel beside.1, beside.2⟩
  · exact .pure ()

end Call.Agrees

namespace Interceptor

variable {mine : Interceptor δ μ} {interceptor : Interceptor ε μ}

omit [Entity δ μ] [Entity ε μ] in
/-- The mapping is asked alike by interceptors that own the same and whose checks come to the same.
-/
theorem agrees_isEligible {cls : EntityClass} {factory : Option SessionFactory}
    (owns : mine.owns cls factory = interceptor.owns cls factory)
    (checks
      : ((mine.mapping cls).run copy).Agrees (Beside id similar)
          ((interceptor.mapping cls).run services))
    : (mine.isEligible copy cls factory).Agrees similar
        (interceptor.isEligible services cls factory) := by
  unfold isEligible
  rw [owns]
  split
  · exact .lend checks ()
  · exact .pure false

/-- The listener of an entity is looked for alike if the listeners of all classes are. -/
theorem agrees_findForWith (corresponds : Corresponds back similar copy services)
    (finds
      : ∀ cls factory,
          (mine.findWith copy cls factory).Agrees similar
            (interceptor.findWith services cls factory))
    (entity : Option δ) (factory : Option SessionFactory)
    : (mine.findForWith copy entity factory).Agrees similar
        (interceptor.findForWith services (entity.map back) factory) := by
  cases entity with
  | none => exact .pure none
  | some entity =>
      show (mine.findWith copy (Entity.cls entity) factory).Agrees similar _
      rw [corresponds.cls]
      exact finds _ factory

/-- Corresponding events are dispatched alike if the listeners of all classes are looked for alike.
-/
theorem agrees_dispatchWith (similarity : State.Similarity similar)
    (corresponds : Corresponds back similar copy services)
    (finds
      : ∀ cls factory,
          (mine.findWith copy cls factory).Agrees similar
            (interceptor.findWith services cls factory))
    : (mine.dispatchWith copy).Agrees (Beside (Announcement.map back) similar)
        (interceptor.dispatchWith services) := by
  intro start start' beside
  obtain ⟨announcement, state⟩ := start
  obtain ⟨announcement', state'⟩ := start'
  obtain ⟨rfl, alike⟩ : announcement.map back = announcement' ∧ similar state state' := beside
  have carried := announcement.event.entity_map back
  have asked := announcement.event.factory_map back
  obtain ⟨same, reached⟩ :=
    agrees_findForWith corresponds finds announcement.event.entity announcement.event.factory
      state state' alike
  simp only [outcome_dispatchWith, Announcement.map, carried, asked]
  rcases ends : (mine.findForWith copy announcement.event.entity
    announcement.event.factory).outcome state with ⟨result, middle⟩
  rcases ends' : (interceptor.findForWith services (announcement.event.entity.map back)
    announcement.event.factory).outcome state' with ⟨result', middle'⟩
  rw [ends, ends'] at same reached
  obtain rfl : result = result' := same
  rcases result with stop | _ | listener
  · exact ⟨rfl, rfl, reached⟩
  · exact ⟨rfl, rfl, reached⟩
  · exact Call.Agrees.deliver similarity corresponds listener (announcement, middle)
      (announcement.map back, middle') ⟨rfl, reached⟩

end Interceptor

end Sides

end Lifecycle
