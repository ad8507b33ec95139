import Lifecycle.Proofs.Resolution.Memo
import Lifecycle.Scenario.ScriptedEntity
import Lifecycle.Scenario.ScriptedMapping

/-! The two caches of an interceptor say together what one table says. Between operations no lock
is held, a class has a listener if its trigger is set and none if it is cleared, and nothing of
what earlier events left behind can be seen in an answer but the decision itself.
-/

namespace Lifecycle

namespace Cache

/-- Every class's lock exists and nobody holds one. -/
structure Idle (cache : Cache) : Prop where
  latched : cache.Latched
  free : ∀ lock, cache.owner? lock = none

theorem idle_empty : Cache.empty.Idle := ⟨fun _ _ known => (nomatch known), fun _ => rfl⟩

theorem Idle.isHeld_eq {cache : Cache} (idle : cache.Idle) (id : TypeId)
    : cache.isHeld id = false := by
  unfold isHeld
  cases cache.locks.get? id with
  | none => rfl
  | some lock => simp [idle.free lock]

/-- On an idle cache the lock of a class can be taken, and giving it back leaves the cache idle
again, whatever was done to the entries in between.
-/
theorem Idle.enter?_eq {cache : Cache} (idle : cache.Idle) (id : TypeId)
    : ∃ lock entered,
        cache.enter? id = some (lock, entered)
        ∧ entered = { cache with locks := entered.locks, latches := entered.latches }
        ∧ ∀ after : Cache,
            after.locks = entered.locks
            → after.latches = entered.latches
            → ∀ panicked, (after.release lock panicked).Idle := by
  have made := idle.latched.ensureLock id
  have known := cache.get?_locks_ensureLock id id
  rw [if_pos rfl] at known
  have free : (cache.ensureLock id).2.owner? (cache.ensureLock id).1 = none := by
    rw [owner?_ensureLock]
    exact idle.free _
  obtain ⟨entered, acquired⟩ :=
    Option.isSome_iff_exists.mp (acquire?_isSome _ 0 (made id _ known) free)
  obtain ⟨-, same, owner⟩ := acquire?_eq_some _ acquired
  refine ⟨(cache.ensureLock id).1, entered, ?_, ?_, ?_⟩
  · simp only [enter?, acquired, Option.map_some]
  · rw [same, ensureLock_frame]
  · intro after locks latches panicked
    have latched := made.acquire acquired
    constructor
    · refine Latched.release (fun other lock known => ?_) _ _
      rw [latches]
      exact latched other lock (locks ▸ known)
    · intro other
      rw [owner?_release]
      split
      · rfl
      · rename_i apart
        have before : after.owner? other = entered.owner? other := by simp only [owner?, latches]
        rw [before, owner, if_neg apart, owner?_ensureLock]
        exact idle.free other

end Cache

variable {ε μ : Type}

/-- The state of an interceptor says what the table says. -/
structure State.Refines (state : State μ) (memo : Memo μ) : Prop where
  listeners : ∀ id, state.cache.listeners.get? id = (memo.decision id).join
  triggers : ∀ id, state.cache.triggers.get? id = (memo.decision id).map Option.isSome
  created : state.cache.created = memo.made
  nextSerial : state.cache.nextSerial = memo.made
  clock : state.clock = memo.clock
  memory : state.memory = memo.memory

namespace State.Refines

variable {state : State μ} {memo : Memo μ}

theorem initial (clock : Clock) (memory : μ)
    : (State.initial clock memory).Refines (.initial clock memory) :=
  ⟨fun _ => rfl, fun _ => rfl, rfl, rfl, rfl, rfl⟩

/-- What the caches remember of a class is what is decided of it. -/
theorem decided? (refines : state.Refines memo) (id : TypeId)
    : state.cache.decided? id = memo.decision id := by
  unfold Cache.decided?
  rw [refines.listeners, refines.triggers]
  rcases memo.decision id with _ | _ | listener
  · rfl
  · rfl
  · rfl

theorem mentions (refines : state.Refines memo) (id : TypeId)
    : state.cache.mentions id = (memo.decision id).isSome := by
  unfold Cache.mentions
  rw [refines.listeners, refines.triggers]
  rcases memo.decision id with _ | _ | listener
  · rfl
  · rfl
  · rfl

/-- Neither locks nor the other counters matter to what the caches say. -/
theorem recache (refines : state.Refines memo) {cache : Cache}
    (listeners : cache.listeners = state.cache.listeners)
    (triggers : cache.triggers = state.cache.triggers)
    (created : cache.created = state.cache.created)
    (nextSerial : cache.nextSerial = state.cache.nextSerial)
    : ({ state with cache } : State μ).Refines memo :=
  ⟨fun id => listeners ▸ refines.listeners id, fun id => triggers ▸ refines.triggers id,
    created.trans refines.created, nextSerial.trans refines.nextSerial, refines.clock,
    refines.memory⟩

theorem remember (refines : state.Refines memo) (memory : μ)
    : ({ state with memory } : State μ).Refines { memo with memory } :=
  ⟨refines.listeners, refines.triggers, refines.created, refines.nextSerial, refines.clock, rfl⟩

/-- A table that shows what is decided goes on to show it if both get an entry for a class. -/
theorem get?_insert_of_shows {α β : Type} {table : Table α} {decision : TypeId → Option β}
    {view : Option β → Option α} (shows : ∀ id, table.get? id = view (decision id)) (key : TypeId)
    {value : α} {entry : β} (seen : view (some entry) = some value) (id : TypeId)
    : (table.insert key value).get? id = view (if id = key then some entry else decision id) := by
  rw [Table.get?_insert]
  split
  · exact seen.symm
  · exact shows id

/-- A table that shows what is decided goes on to show it if both lose their entry for a class. -/
theorem get?_erase_of_shows {α β : Type} {table : Table α} {decision : TypeId → Option β}
    {view : Option β → Option α} (shows : ∀ id, table.get? id = view (decision id)) (key : TypeId)
    (blind : view none = none) (id : TypeId)
    : (table.erase key).get? id = view (if id = key then none else decision id) := by
  rw [Table.get?_erase]
  split
  · exact blind.symm
  · exact shows id

/-- A class that is declined is decided for no listener. -/
theorem decline (refines : state.Refines memo) {cls : EntityClass}
    (undecided : memo.decision cls.id = none)
    : (state.mapCache (·.decline cls)).Refines (memo.decide cls.id none) := by
  refine ⟨?_, ?_, refines.created, refines.nextSerial, refines.clock, refines.memory⟩
  · intro id
    have before := refines.listeners id
    by_cases same : id = cls.id
    · subst same
      rw [undecided] at before
      simpa [mapCache, Cache.decline, Cache.setTrigger, Memo.decide] using before
    · simpa [mapCache, Cache.decline, Cache.setTrigger, Memo.decide, same] using before
  · exact get?_insert_of_shows refines.triggers cls.id rfl

/-- A class that is enrolled is decided for the listener that is made for it. -/
theorem enrol (refines : state.Refines memo) {cls : EntityClass} (config : Config)
    (undecided : memo.decision cls.id = none)
    : (state.cache.enrol cls config state.clock).1 = .make memo.made cls config memo.clock
      ∧ ({ state with
            cache := (state.cache.enrol cls config state.clock).2 } : State μ).Refines
          (memo.settle cls config true).2 := by
  have vacant : state.cache.listeners.get? cls.id = none := by
    rw [refines.listeners, undecided]
    rfl
  rw [Cache.enrol_of_vacant _ config state.clock vacant, refines.nextSerial, refines.clock]
  refine ⟨rfl, ?_, ?_, ?_, rfl, rfl, refines.memory⟩
  · exact get?_insert_of_shows refines.listeners cls.id rfl
  · exact get?_insert_of_shows refines.triggers cls.id rfl
  · exact congrArg (· + 1) refines.created

/-- Evicting a class forgets what is decided of it. -/
theorem forget (refines : state.Refines memo) (id : TypeId)
    : (state.mapCache (·.forget id)).Refines (memo.forget id) := by
  refine ⟨?_, ?_, refines.created, refines.nextSerial, refines.clock, refines.memory⟩
  · exact get?_erase_of_shows refines.listeners id rfl
  · exact get?_erase_of_shows refines.triggers id rfl

theorem clear (refines : state.Refines memo)
    : (state.mapCache Cache.clear).Refines memo.forgetAll :=
  ⟨fun _ => rfl, fun _ => rfl, refines.created, refines.nextSerial, refines.clock, refines.memory⟩

end State.Refines

namespace Interceptor

variable {interceptor : Interceptor ε μ} {state : State μ} {memo : Memo μ}

/-- A call that comes back gives back the lock that was held for it. -/
theorem outcome_holding {α : Type} {call : Call (State μ) α} {result : Except Stop α}
    {reached : State μ} (lock : LockId) (ends : call.outcome state = (result, reached))
    (returns : result ≠ .error .hung)
    : ∃ panicked,
        (holding lock call).outcome state
          = (result, reached.mapCache (·.release lock panicked)) := by
  rw [holding, Call.outcome_ofOutcome, ends]
  cases result with
  | ok value => exact ⟨false, rfl⟩
  | error stop =>
      cases stop with
      | failed cause => exact ⟨false, rfl⟩
      | panicked => exact ⟨true, rfl⟩
      | hung => exact absurd rfl returns

/-- A class is settled in the caches as in the table, and no lock moves. -/
theorem refines_settle (interceptor : Interceptor ε μ) (cls : EntityClass) (eligible : Bool)
    (refines : state.Refines memo) (undecided : memo.decision cls.id = none)
    : ∃ cache,
        (interceptor.settle cls eligible).outcome state
          = (.ok (memo.settle cls interceptor.config eligible).1, { state with cache })
        ∧ ({ state with cache } : State μ).Refines (memo.settle cls interceptor.config eligible).2
        ∧ cache.locks = state.cache.locks
        ∧ cache.latches = state.cache.latches := by
  cases eligible with
  | false => exact ⟨state.cache.decline cls, rfl, refines.decline undecided, rfl, rfl⟩
  | true =>
      obtain ⟨made, reached⟩ := refines.enrol interceptor.config undecided
      have vacant : state.cache.listeners.get? cls.id = none := by
        rw [refines.listeners, undecided]
        rfl
      have enrolled := state.cache.enrol_of_vacant interceptor.config state.clock vacant
      refine ⟨(state.cache.enrol cls interceptor.config state.clock).2, ?_, reached, ?_, ?_⟩
      · show (Except.ok (some (state.cache.enrol cls interceptor.config state.clock).1), _) = _
        rw [made]
        rfl
      · rw [enrolled]
      · rw [enrolled]

/-- An undecided class is resolved in the caches as in the table, and no lock moves. The call
comes back, if only with a panic.
-/
theorem Silent.refines_resolve (silent : interceptor.Silent) (services : Services ε μ)
    (cls : EntityClass) (factory : Option SessionFactory) (refines : state.Refines memo)
    (undecided : memo.decision cls.id = none)
    : ∃ reached,
        (interceptor.resolve services cls factory).outcome state
          = ((memo.resolve interceptor cls factory).1, reached)
        ∧ reached.Refines (memo.resolve interceptor cls factory).2
        ∧ reached.cache.locks = state.cache.locks
        ∧ reached.cache.latches = state.cache.latches
        ∧ (memo.resolve interceptor cls factory).1 ≠ .error .hung := by
  have nothing := (refines.decided? cls.id).trans undecided
  have counted : (state.mapCache Cache.countCheck).Refines memo :=
    refines.recache rfl rfl rfl rfl
  rw [resolve, Call.outcome_bind, Call.outcome_get]
  simp only [Call.andThen, nothing]
  rw [Call.outcome_bind, Call.outcome_modify]
  simp only [Call.andThen]
  rw [Call.outcome_bind, silent.outcome_isEligible, Memo.resolve]
  cases owned : interceptor.owns cls factory with
  | false =>
      obtain ⟨cache, settled, reached, locks, latches⟩ :=
        refines_settle interceptor cls false counted undecided
      exact ⟨_, settled, reached, locks, latches, by simp⟩
  | true =>
      have asked : (state.mapCache Cache.countCheck).memory = memo.memory := refines.memory
      simp only [if_true, asked]
      obtain ⟨memory, ⟨mapped, answers⟩ | panics⟩ := silent.check_eq cls memo.memory
      · obtain ⟨cache, settled, reached, locks, latches⟩ :=
          refines_settle interceptor cls mapped (counted.remember memory) undecided
        rw [answers]
        exact ⟨_, settled, reached, locks, latches, by simp⟩
      · rw [panics]
        exact ⟨_, rfl, counted.remember memory, rfl, rfl, by simp⟩

/-- The listener of a class is found by the interceptor as in the table. The caches are idle again
afterwards.
-/
theorem Silent.refines_find (silent : interceptor.Silent) (services : Services ε μ)
    (cls : EntityClass) (factory : Option SessionFactory) (refines : state.Refines memo)
    (idle : state.cache.Idle)
    : ∃ reached,
        (interceptor.findWith services cls factory).outcome state
          = ((memo.find interceptor cls factory).1, reached)
        ∧ reached.Refines (memo.find interceptor cls factory).2
        ∧ reached.cache.Idle := by
  have remembered := refines.decided? cls.id
  rw [findWith, Call.outcome_bind, Call.outcome_get]
  cases decided : memo.decision cls.id with
  | some decision =>
      rw [decided] at remembered
      simp only [Call.andThen, remembered, Call.outcome_bind, Call.outcome_set, Call.outcome_pure,
        Memo.find, decided]
      exact ⟨_, rfl, refines.recache rfl rfl rfl rfl, idle.latched, idle.free⟩
  | none =>
      rw [decided] at remembered
      -- Between operations nobody holds a lock, so the lock of the class is there to be taken.
      obtain ⟨lock, entered, enters, same, back⟩ := idle.enter?_eq cls.id
      have inside : ({ state with cache := entered } : State μ).Refines memo := by
        rw [same]
        exact refines.recache rfl rfl rfl rfl
      obtain ⟨reached, resolved, refines', locks, latches, returns⟩ :=
        silent.refines_resolve services cls factory inside decided
      obtain ⟨panicked, held⟩ := outcome_holding lock resolved returns
      simp only [Call.andThen, remembered, enters, Call.outcome_bind, Call.outcome_set, Memo.find,
        decided]
      exact ⟨_, held, refines'.recache rfl rfl rfl rfl, back reached.cache locks latches panicked⟩

/-- Every operation is carried out by the interceptor as in the table. -/
theorem Silent.refines_perform [Entity ε μ] (silent : interceptor.Silent)
    (operation : Operation μ) (refines : state.Refines memo) (idle : state.cache.Idle)
    : ∃ reached,
        (interceptor.perform operation).outcome state
          = ((memo.perform interceptor operation).1, reached)
        ∧ reached.Refines (memo.perform interceptor operation).2
        ∧ reached.cache.Idle := by
  cases operation with
  | find cls factory =>
      cases cls with
      | none => exact ⟨state, rfl, refines, idle⟩
      | some cls =>
          obtain ⟨reached, found, refines', idle'⟩ :=
            silent.refines_find interceptor.services cls factory refines idle
          refine ⟨reached, ?_, refines', idle'⟩
          rw [perform, Call.outcome_map, find, found]
          rfl
  | evict key =>
      refine ⟨state.mapCache (·.forget key.id), ?_, refines.forget key.id,
        idle.latched, idle.free⟩
      rw [perform, Call.outcome_map, evict, Call.outcome_bind, Call.outcome_get]
      simp only [Call.andThen, idle.isHeld_eq, refines.mentions, Memo.perform]
      rfl
  | clear => exact ⟨state.mapCache Cache.clear, rfl, refines.clear, idle.latched, idle.free⟩
  | setClock clock =>
      refine ⟨{ state with clock, cache := state.cache.clear }, rfl, ?_, idle.latched, idle.free⟩
      exact ⟨fun _ => rfl, fun _ => rfl, refines.created, refines.nextSerial, rfl, refines.memory⟩
  | elsewhere readings memory =>
      refine ⟨{ state with readings, memory }, rfl, ?_, idle⟩
      exact ⟨refines.listeners, refines.triggers, refines.created, refines.nextSerial,
        refines.clock, rfl⟩

/-- Every run of operations is answered by the interceptor as by the table. -/
theorem Silent.refines_answers [Entity ε μ] (silent : interceptor.Silent)
    (operations : List (Operation μ)) (refines : state.Refines memo) (idle : state.cache.Idle)
    : (answers (fun state operation => (interceptor.perform operation).outcome state) state
          operations).1
        = (answers (Memo.perform interceptor) memo operations).1
      ∧ (interceptor.after state operations).Refines
          (answers (Memo.perform interceptor) memo operations).2
      ∧ (interceptor.after state operations).cache.Idle := by
  refine answers_simulates
    (fun (state : State μ) (memo : Memo μ) => state.Refines memo ∧ state.cache.Idle)
    (fun operation belongs => ?_) ⟨refines, idle⟩ operations
  obtain ⟨reached, performed, refines⟩ := silent.refines_perform operation belongs.1 belongs.2
  rw [performed]
  exact ⟨rfl, refines⟩

/-- The interceptor is a table of decisions to whoever uses it, if its mapping never calls it back,
whatever the mapping answers from one time to the next and even if it panics. Over every run of
operations the answers are those of the table, and so are the memory of the mapping, the decision on
every class and the number of listeners made. An entity is looked up by its class; without an entity
there is no listener, and nothing changes. A mapping that counts how often it is asked counts one
more for each undecided class that an event of the datastore's own asks for, and nothing else.
-/
theorem perform_refines_memo [Entity ε μ] (interceptor : Interceptor ε μ)
    (silent : interceptor.Silent) (clock : Clock) (memory : μ) (operations : List (Operation μ))
    : let run :=
        answers (fun state operation => (interceptor.perform operation).outcome state)
          (State.initial clock memory) operations
      let table := answers (Memo.perform interceptor) (Memo.initial clock memory) operations
      run.1 = table.1
      ∧ run.2.memory = table.2.memory
      ∧ (∀ id, run.2.cache.decided? id = table.2.decision id)
      ∧ run.2.cache.created = table.2.made
      ∧ (∀ (entity : Option ε) factory,
          Answer.found <$> interceptor.findFor entity factory
          = interceptor.perform (.find (entity.map Entity.cls) factory))
      ∧ (∀ factory,
          (interceptor.perform (.find none factory)).outcome run.2 = (.ok (.found none), run.2))
      ∧ (∀ tally : μ → Nat,
          (∀ cls memory, tally (interceptor.check cls memory).2 = tally memory + 1)
          → ∀ cls factory,
              tally ((interceptor.perform (.find (some cls) factory)).outcome run.2).2.memory
              = tally run.2.memory
                + if (table.2.decision cls.id).isNone && interceptor.owns cls factory then 1
                  else 0) := by
  intro run table
  obtain ⟨same, refines, idle⟩
      : run.1 = table.1 ∧ run.2.Refines table.2 ∧ run.2.cache.Idle :=
    silent.refines_answers operations (.initial clock memory) Cache.idle_empty
  refine ⟨same, refines.memory, refines.decided?, refines.created, interceptor.findFor_eq_perform,
    fun _ => rfl, ?_⟩
  intro tally counts cls factory
  obtain ⟨reached, performed, refines', -⟩ :=
    silent.refines_perform (.find (some cls) factory) refines idle
  rw [performed, refines'.memory, refines.memory]
  exact Memo.tally_find interceptor tally counts table.2 cls factory

end Interceptor

namespace Scenario

/-- A scripted mapping that makes no calls of its own is silent. -/
theorem ScriptedMapping.silent {mapping : ScriptedMapping} (quiet : mapping.onCheck = [])
    (cls : EntityClass)
    : (mapping.context cls : Script ε Memory Unit Bool).Silent := by
  intro reached
  dsimp only
  split
  · trivial
  · split
    · trivial
    · intro reached
      rw [quiet]
      exact fun _ => trivial

/-- The interceptor of a mapping that panics when it is asked for the first time and maps every
class from then on.
-/
def hesitant : Interceptor (ScriptedEntity Unit) Memory where
  home := ⟨0, "main"⟩
  config := default
  mapping := (⟨1, [], .listed [true]⟩ : ScriptedMapping).context
  nesting := 1

/-- A class is asked for until it is decided, from home and from elsewhere, evicted, and decided
again for an event from elsewhere.
-/
def visits : List (Operation Memory) :=
  let order : EntityClass := ⟨⟨7, "shop::Order"⟩, false⟩
  [.find (some order) none, .find (some order) none, .find (some order) (some ⟨1, "other"⟩),
    .evict order.key, .find (some order) (some ⟨1, "other"⟩), .find (some order) none]

/-- The interceptor panics once, then makes a listener and keeps it for an event from elsewhere;
after the eviction the class is declined, and stays declined.
-/
theorem perform_refines_memo_hesitant
    : hesitant.Silent
      ∧ (answers (fun state operation => (hesitant.perform operation).outcome state)
            (State.initial (.fixed 0 0) .empty) visits).1
        = [.error .panicked,
            .ok (.found (some (.make 0 ⟨⟨7, "shop::Order"⟩, false⟩ default (.fixed 0 0)))),
            .ok (.found (some (.make 0 ⟨⟨7, "shop::Order"⟩, false⟩ default (.fixed 0 0)))),
            .ok (.evicted true), .ok (.found none), .ok (.found none)] := by
  have silent : hesitant.Silent := fun cls => ScriptedMapping.silent rfl cls
  refine ⟨silent, ?_⟩
  exact (hesitant.perform_refines_memo silent (.fixed 0 0) .empty visits).1.trans rfl

end Scenario

end Lifecycle
