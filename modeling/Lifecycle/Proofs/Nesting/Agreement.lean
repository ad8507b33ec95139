import Lifecycle.Proofs.Nesting.Correspondence
import Lifecycle.Proofs.Nesting.Replay

/-! States that nobody can tell apart. Two states that say the same of every class, and in which the
same classes are held, go through the same calls with the same answers, however deep these are
nested: by what numbers their locks go, and which of them a panic has passed, makes no difference.
-/

namespace Lifecycle

variable {ε μ : Type}

/-- No call can tell the two states apart. -/
structure State.Alike (state other : State μ) : Prop where
  mirrors : state.Mirrors other
  paired : state.cache.Paired ∧ other.cache.Paired
  held : ∀ id, state.cache.isHeld id = other.cache.isHeld id
  readings : state.readings = other.readings
  memory : state.memory = other.memory

/-- States stay alike when the same is remembered elsewhere. -/
theorem State.Alike.remember {one other : State μ} (alike : one.Alike other) (memory : μ)
    : State.Alike { one with memory } { other with memory } :=
  ⟨alike.mirrors.frame ⟨rfl, rfl, rfl, rfl, rfl, rfl⟩ ⟨rfl, rfl, rfl, rfl, rfl, rfl⟩, alike.paired,
    alike.held, alike.readings, rfl⟩

/-- States stay alike when clocks have been read as often. -/
theorem State.Alike.read {one other : State μ} (alike : one.Alike other) (readings : Readings)
    : State.Alike { one with readings } { other with readings } :=
  ⟨alike.mirrors.frame ⟨rfl, rfl, rfl, rfl, rfl, rfl⟩ ⟨rfl, rfl, rfl, rfl, rfl, rfl⟩, alike.paired,
    alike.held, rfl, alike.memory⟩

/-- States stay alike when their caches come to say the same, and their locks stay as they are. -/
theorem State.Alike.recache {one other : State μ} (alike : one.Alike other) {cache cache' : Cache}
    (mirrors : State.Mirrors { one with cache } { other with cache := cache' })
    (locks : cache.locks = one.cache.locks ∧ cache.latches = one.cache.latches)
    (locks' : cache'.locks = other.cache.locks ∧ cache'.latches = other.cache.latches)
    : State.Alike { one with cache } { other with cache := cache' } := by
  refine ⟨mirrors, ⟨alike.paired.1.frame locks.1 locks.2, alike.paired.2.frame locks'.1 locks'.2⟩,
    fun id => ?_, alike.readings, alike.memory⟩
  exact (Cache.isHeld_frame locks.1 locks.2).trans
    ((alike.held id).trans (Cache.isHeld_frame locks'.1 locks'.2).symm)

/-- States stay alike when they get the same clock and forget all classes. -/
theorem State.Alike.setClock {one other : State μ} (alike : one.Alike other) (clock : Clock)
    : State.Alike { one with clock, cache := one.cache.clear }
        { other with clock, cache := other.cache.clear } :=
  ⟨⟨fun _ => rfl, fun _ => rfl, alike.mirrors.nextSerial, alike.mirrors.created,
      alike.mirrors.hits, rfl⟩,
    ⟨alike.paired.1.frame rfl rfl, alike.paired.2.frame rfl rfl⟩, alike.held, alike.readings,
    alike.memory⟩

theorem State.Alike.similarity : State.Similarity (State.Alike : State μ → State μ → Prop) :=
  ⟨(·.memory), (·.readings), remember, read⟩

-----------------------------------------------------------------------------------------
-- Hooks
-----------------------------------------------------------------------------------------

section Hooks

variable {own α : Type} {services : Services ε μ}

/-- A script runs alike in states that are alike. -/
theorem agrees_run (agree : services.Agree id State.Alike services) (script : Script ε μ own α)
    : (script.run services).Agrees (Beside id State.Alike) (script.run services) := by
  have whole
      : ((script.translate id id id (fun mine _ => mine)).run services).Agrees
          (Beside id State.Alike) (script.run services) :=
    .run State.Alike.similarity agree rfl id (fun mine _ => mine) (fun _ _ => rfl) script
  rwa [script.translate_id] at whole

theorem corresponds_self [Entity ε μ] (agree : services.Agree id State.Alike services)
    : Corresponds id State.Alike services services where
  cls _ := rfl
  stamps _ := rfl
  withStamps _ _ := rfl
  judgement _ _ := rfl
  before mine write := agrees_run agree (Entity.before mine write)
  receive mine notice := agrees_run agree (Entity.receive mine notice)

end Hooks

-----------------------------------------------------------------------------------------
-- Interceptors
-----------------------------------------------------------------------------------------

namespace Interceptor

variable {services : Services ε μ} {made : Deeds ε μ} {one other : State μ}

/-- A class is settled alike in states that are alike. -/
theorem agrees_settle (interceptor : Interceptor ε μ) (cls : EntityClass) (eligible : Bool)
    : (interceptor.settle cls eligible).Agrees State.Alike (interceptor.settle cls eligible) := by
  intro one other alike
  have mirrors := alike.mirrors
  have flags (value : Bool) (id : TypeId)
      : (one.cache.triggers.insert cls.id value).get? id
        = (other.cache.triggers.insert cls.id value).get? id := by
    rw [Table.get?_insert, Table.get?_insert, mirrors.triggers]
  cases eligible with
  | false =>
      exact ⟨rfl, alike.recache ⟨mirrors.listeners, flags false, mirrors.nextSerial,
        mirrors.created, mirrors.hits, mirrors.clock⟩ ⟨rfl, rfl⟩ ⟨rfl, rfl⟩⟩
  | true =>
      have enrolled (state : State μ)
          : (interceptor.settle cls true).outcome state
            = (.ok (some (state.cache.enrol cls interceptor.config state.clock).1),
                { state with
                  cache := (state.cache.enrol cls interceptor.config state.clock).2 }) := rfl
      rw [enrolled, enrolled]
      cases found : one.cache.listeners.get? cls.id with
      | some earlier =>
          have found' := (mirrors.listeners cls.id).symm.trans found
          rw [Cache.enrol_of_occupied _ _ _ found, Cache.enrol_of_occupied _ _ _ found']
          exact ⟨rfl, alike.recache ⟨mirrors.listeners, flags true,
            congrArg (· + 1) mirrors.nextSerial, mirrors.created, mirrors.hits, mirrors.clock⟩
            ⟨rfl, rfl⟩ ⟨rfl, rfl⟩⟩
      | none =>
          have found' := (mirrors.listeners cls.id).symm.trans found
          have made : Listener.make one.cache.nextSerial cls interceptor.config one.clock
              = .make other.cache.nextSerial cls interceptor.config other.clock := by
            rw [mirrors.nextSerial, mirrors.clock]
          rw [Cache.enrol_of_vacant _ _ _ found, Cache.enrol_of_vacant _ _ _ found', made]
          refine ⟨rfl, alike.recache ⟨fun id => ?_, flags true,
            congrArg (· + 1) mirrors.nextSerial, congrArg (· + 1) mirrors.created, mirrors.hits,
            mirrors.clock⟩ ⟨rfl, rfl⟩ ⟨rfl, rfl⟩⟩
          exact (Table.get?_insert ..).trans
            (Eq.trans (by rw [mirrors.listeners]) (Table.get?_insert ..).symm)

end Interceptor

/-- A class that is entered in two states that are alike is held in both, and counted in both. -/
theorem State.Alike.enter {one other : State μ} (alike : one.Alike other) {id : TypeId}
    {lock lock' : LockId} {taken taken' : Cache}
    (enters : one.cache.enter? id = some (lock, taken))
    (enters' : other.cache.enter? id = some (lock', taken'))
    : State.Alike { one with cache := taken.countCheck }
        { other with cache := taken'.countCheck } := by
  obtain ⟨inside, -, -, held, others⟩ := alike.paired.1.enter enters
  obtain ⟨inside', -, -, held', others'⟩ := alike.paired.2.enter enters'
  refine ⟨?_, ⟨inside.frame rfl rfl, inside'.frame rfl rfl⟩, fun other => ?_, alike.readings,
    alike.memory⟩
  · rw [Cache.enter?_frame enters, Cache.enter?_frame enters']
    exact alike.mirrors.frame ⟨rfl, rfl, rfl, rfl, rfl, rfl⟩ ⟨rfl, rfl, rfl, rfl, rfl, rfl⟩
  · by_cases own : other = id
    · subst own
      exact held.trans held'.symm
    · exact (others other own).trans ((alike.held other).trans (others' other own).symm)

/-- Locks of a class are given back alike, by whatever numbers they go. -/
theorem State.Alike.release {one other : State μ} (alike : one.Alike other) {id : TypeId}
    {lock lock' : LockId} (known : one.cache.locks.get? id = some lock)
    (known' : other.cache.locks.get? id = some lock') (panicked : Bool)
    : (one.mapCache (·.release lock panicked)).Alike
        (other.mapCache (·.release lock' panicked)) := by
  obtain ⟨inside, free, others⟩ := alike.paired.1.release known panicked
  obtain ⟨inside', free', others'⟩ := alike.paired.2.release known' panicked
  refine ⟨alike.mirrors.frame ⟨rfl, rfl, rfl, rfl, rfl, rfl⟩ ⟨rfl, rfl, rfl, rfl, rfl, rfl⟩,
    ⟨inside, inside'⟩, fun other => ?_, alike.readings, alike.memory⟩
  by_cases own : other = id
  · subst own
    exact free.trans free'.symm
  · exact (others other own).trans ((alike.held other).trans (others' other own).symm)

namespace Interceptor

variable {services : Services ε μ} {made : Deeds ε μ} {one other : State μ}

/-- A class keeps its lock while it is decided on. -/
theorem known_of_decides (interceptor : Interceptor ε μ) (take : services.Take interceptor made)
    (cls : EntityClass) (factory : Option SessionFactory) {state : State μ}
    (paired : state.cache.Paired) {lock : LockId}
    (known : state.cache.locks.get? cls.id = some lock)
    : ((interceptor.isEligible services cls factory >>= interceptor.settle cls).outcome
        state).2.cache.locks.get? cls.id = some lock := by
  have kept :=
    ((interceptor.course_isEligible take cls factory state).returns paired).known known
  rw [Call.outcome_bind]
  rcases ends : (interceptor.isEligible services cls factory).outcome state
    with ⟨stop | eligible, middle⟩
  · rw [ends] at kept
    exact kept
  · rw [ends] at kept
    exact (interceptor.settle_locks cls eligible middle).1 ▸ kept

/-- The listener of a class is looked for alike in states that are alike. -/
theorem agrees_findWith (interceptor : Interceptor ε μ) (take : services.Take interceptor made)
    (agree : services.Agree id State.Alike services) (cls : EntityClass)
    (factory : Option SessionFactory)
    : (interceptor.findWith services cls factory).Agrees State.Alike
        (interceptor.findWith services cls factory) := by
  intro one other alike
  rw [outcome_findWith, outcome_findWith, alike.mirrors.decided?]
  cases decided : other.cache.decided? cls.id with
  | some decision =>
      exact ⟨rfl, alike.recache alike.mirrors.hit ⟨rfl, rfl⟩ ⟨rfl, rfl⟩⟩
  | none =>
      cases held : other.cache.isHeld cls.id with
      | true =>
          rw [alike.paired.1.enter?_eq_none ((alike.held _).trans held),
            alike.paired.2.enter?_eq_none held]
          exact ⟨rfl, alike⟩
      | false =>
          obtain ⟨lock, taken, enters⟩ := alike.paired.1.exists_enter ((alike.held _).trans held)
          obtain ⟨lock', taken', enters'⟩ := alike.paired.2.exists_enter held
          have begun := alike.enter enters enters'
          have known := interceptor.known_of_decides take cls factory begun.paired.1
            (alike.paired.1.enter enters).2.1
          have known' := interceptor.known_of_decides take cls factory begun.paired.2
            (alike.paired.2.enter enters').2.1
          obtain ⟨same, reached⟩ :=
            Call.Agrees.bind
              (agrees_isEligible rfl (agrees_run agree (interceptor.mapping cls)))
              (interceptor.agrees_settle cls) _ _ begun
          rw [enters, enters']
          simp only [holding, Call.outcome_ofOutcome]
          rcases ends : (interceptor.isEligible services cls factory
              >>= interceptor.settle cls).outcome { one with cache := taken.countCheck }
            with ⟨result, middle⟩
          rcases ends' : (interceptor.isEligible services cls factory
              >>= interceptor.settle cls).outcome { other with cache := taken'.countCheck }
            with ⟨result', middle'⟩
          rw [ends, ends'] at same reached
          rw [ends] at known
          rw [ends'] at known'
          obtain rfl : result = result' := same
          rcases result with (cause | _ | _) | decision
          · exact ⟨rfl, reached.release known known' false⟩
          · exact ⟨rfl, reached.release known known' true⟩
          · exact ⟨rfl, reached⟩
          · exact ⟨rfl, reached.release known known' false⟩

theorem agrees_evict (key : ClassKey)
    : (evict key : Call (State μ) Bool).Agrees State.Alike (evict key) := by
  intro one other alike
  have mentioned : one.cache.mentions key.id = other.cache.mentions key.id := by
    unfold Cache.mentions
    rw [alike.mirrors.listeners, alike.mirrors.triggers]
  simp only [evict, Call.outcome_bind, Call.outcome_get, Call.andThen]
  rw [alike.held, mentioned]
  split
  · exact ⟨rfl, alike⟩
  · exact ⟨rfl, alike.recache (alike.mirrors.forget key.id) ⟨rfl, rfl⟩ ⟨rfl, rfl⟩⟩

theorem agrees_clear : (clear : Call (State μ) Unit).Agrees State.Alike clear :=
  fun _ _ alike => ⟨rfl, alike.recache alike.mirrors.clear ⟨rfl, rfl⟩ ⟨rfl, rfl⟩⟩

variable [Entity ε μ]

/-- However deep calls nest, states that are alike are not told apart. -/
theorem agree_servicesTo (interceptor : Interceptor ε μ) (depth : Nat)
    : (interceptor.servicesTo depth).Agree id State.Alike (interceptor.servicesTo depth) := by
  induction depth with
  | zero => exact ⟨fun _ _ => .throw _, fun _ => .throw _, .throw _, .throw _⟩
  | succ depth ih =>
      have finds := interceptor.agrees_findWith (interceptor.take_servicesTo depth) ih
      exact ⟨finds, agrees_evict, agrees_clear,
        agrees_dispatchWith State.Alike.similarity (corresponds_self ih) finds⟩

theorem agrees_find (interceptor : Interceptor ε μ) (cls : EntityClass)
    (factory : Option SessionFactory)
    : (interceptor.find cls factory).Agrees State.Alike (interceptor.find cls factory) :=
  (interceptor.agree_servicesTo (interceptor.nesting + 1)).find cls factory

/-- States that are alike stay so, whatever is put to the interceptor. -/
theorem alike_takeAll (interceptor : Interceptor ε μ) (alike : one.Alike other)
    (inputs : List (Input ε μ))
    : (interceptor.takeAll one inputs).Alike (interceptor.takeAll other inputs) := by
  induction inputs generalizing one other with
  | nil => exact alike
  | cons input rest ih =>
      refine ih ?_
      cases input with
      | event announcement =>
          have dispatched := (interceptor.agree_servicesTo (interceptor.nesting + 1)).dispatch
          exact (dispatched (announcement, one) (announcement, other)
            ⟨announcement.map_id, alike⟩).2.2
      | operation operation =>
          cases operation with
          | find cls factory =>
              cases cls with
              | none => exact alike
              | some cls =>
                  exact (Call.Agrees.map (interceptor.agrees_find cls factory) _ _ _ alike).2
          | evict key => exact (Call.Agrees.map (agrees_evict key) _ _ _ alike).2
          | clear => exact (agrees_clear _ _ alike).2
          | setClock clock => exact alike.setClock clock
          | elsewhere readings memory => exact (alike.read readings).remember memory

end Interceptor

end Lifecycle
