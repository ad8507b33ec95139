import Lifecycle.Proofs.Nesting.Unwinding

/-! Calls that are made again. The calls that ended within others can be made one after the other
from outside, in the order in which they ended, with a mapping that says what it said. That leads to
a state that says the same of every class, whatever became of the calls that had not ended.
-/

namespace Lifecycle

variable {ε μ : Type}

/-- Two states say the same of every class, have made as many listeners and have been hit as often,
and give new listeners the same numbers and clocks.
-/
structure State.Mirrors (copy state : State μ) : Prop where
  listeners : ∀ id, copy.cache.listeners.get? id = state.cache.listeners.get? id
  triggers : ∀ id, copy.cache.triggers.get? id = state.cache.triggers.get? id
  nextSerial : copy.cache.nextSerial = state.cache.nextSerial
  created : copy.cache.created = state.cache.created
  hits : copy.cache.hits = state.cache.hits
  clock : copy.clock = state.clock

namespace State.Mirrors

variable {copy state again reached : State μ}

theorem refl (state : State μ) : state.Mirrors state :=
  ⟨fun _ => rfl, fun _ => rfl, rfl, rfl, rfl, rfl⟩

/-- A state mirrors another as before if what it is told by has not changed in either. -/
theorem frame (mirrors : copy.Mirrors state)
    (same
      : again.cache.listeners = copy.cache.listeners
        ∧ again.cache.triggers = copy.cache.triggers
        ∧ again.cache.nextSerial = copy.cache.nextSerial
        ∧ again.cache.created = copy.cache.created
        ∧ again.cache.hits = copy.cache.hits
        ∧ again.clock = copy.clock)
    (same'
      : reached.cache.listeners = state.cache.listeners
        ∧ reached.cache.triggers = state.cache.triggers
        ∧ reached.cache.nextSerial = state.cache.nextSerial
        ∧ reached.cache.created = state.cache.created
        ∧ reached.cache.hits = state.cache.hits
        ∧ reached.clock = state.clock)
    : again.Mirrors reached := by
  obtain ⟨listeners, triggers, nextSerial, created, hits, clock⟩ := same
  obtain ⟨listeners', triggers', nextSerial', created', hits', clock'⟩ := same'
  constructor
  · rw [listeners, listeners']
    exact mirrors.listeners
  · rw [triggers, triggers']
    exact mirrors.triggers
  · rw [nextSerial, nextSerial', mirrors.nextSerial]
  · rw [created, created', mirrors.created]
  · rw [hits, hits', mirrors.hits]
  · rw [clock, clock', mirrors.clock]

/-- What is decided of a class is told by the tables. -/
theorem decided? (mirrors : copy.Mirrors state) (id : TypeId)
    : copy.cache.decided? id = state.cache.decided? id := by
  unfold Cache.decided?
  rw [mirrors.listeners, mirrors.triggers]

theorem hit (mirrors : copy.Mirrors state)
    : (copy.mapCache Cache.countHit).Mirrors (state.mapCache Cache.countHit) :=
  ⟨mirrors.listeners, mirrors.triggers, mirrors.nextSerial, mirrors.created,
    congrArg (· + 1) mirrors.hits, mirrors.clock⟩

theorem forget (mirrors : copy.Mirrors state) (id : TypeId)
    : (copy.mapCache (·.forget id)).Mirrors (state.mapCache (·.forget id)) := by
  refine ⟨fun other => ?_, fun other => ?_, mirrors.nextSerial, mirrors.created, mirrors.hits,
    mirrors.clock⟩
  · simp only [mapCache, Cache.listeners_forget, mirrors.listeners]
  · simp only [mapCache, Cache.triggers_forget, mirrors.triggers]

theorem clear (mirrors : copy.Mirrors state)
    : (copy.mapCache Cache.clear).Mirrors (state.mapCache Cache.clear) :=
  ⟨fun _ => rfl, fun _ => rfl, mirrors.nextSerial, mirrors.created, mirrors.hits, mirrors.clock⟩

/-- A class that is settled in both states is settled alike. -/
theorem settled {interceptor : Interceptor ε μ} {cls : EntityClass} {eligible : Bool}
    (mirrors : copy.Mirrors state) (settled : interceptor.Settled cls eligible copy again)
    (settled' : interceptor.Settled cls eligible state reached)
    : again.Mirrors reached := by
  constructor
  · intro id
    rw [settled.listeners, settled'.listeners, mirrors.listeners, mirrors.nextSerial,
      mirrors.clock]
  · intro id
    rw [settled.triggers, settled'.triggers, mirrors.triggers]
  · rw [settled.nextSerial, settled'.nextSerial, mirrors.nextSerial]
  · rw [settled.created, settled'.created, mirrors.created]
  · rw [settled.counted.2, settled'.counted.2, mirrors.hits]
  · rw [settled.elsewhere.1, settled'.elsewhere.1, mirrors.clock]

end State.Mirrors

/-- A state says the same as another, its locks are in order, and no class is held in it that is
not held in the other.
-/
structure State.Copies (copy state : State μ) : Prop where
  mirrors : copy.Mirrors state
  paired : copy.cache.Paired
  fewer : ∀ id, copy.cache.isHeld id = true → state.cache.isHeld id = true

/-- A copy of a state is one of the state in which a resolution has begun, and does not hold its
class.
-/
theorem State.Copies.enter {copy state : State μ} {id : TypeId} {lock : LockId} {taken : Cache}
    (copies : copy.Copies state) (paired : state.cache.Paired)
    (enters : state.cache.enter? id = some (lock, taken))
    : copy.Copies { state with cache := taken.countCheck } ∧ copy.cache.isHeld id = false := by
  obtain ⟨-, -, free, -, others⟩ := paired.enter enters
  have unheld : copy.cache.isHeld id = false := by
    cases held : copy.cache.isHeld id with
    | false => rfl
    | true => exact (copies.fewer id held).symm.trans free
  have same := Cache.enter?_frame enters
  refine ⟨⟨?_, copies.paired, fun other held => ?_⟩, unheld⟩
  · rw [same]
    exact copies.mirrors.frame (by simp) (by simp [Cache.countCheck])
  · have apart : other ≠ id := by
      rintro rfl
      cases unheld.symm.trans held
    exact (others other apart).trans (copies.fewer other held)

/-- A state that was reached is mirrored by one to which the deeds have led when they were made
again from a copy, with the locks of the copy. Resolutions that were not settled are not counted
there.
-/
structure State.Redone (copy again reached : State μ) (deeds : List Deed) : Prop where
  mirrors : again.Mirrors reached
  paired : again.cache.Paired
  held : ∀ id, again.cache.isHeld id = copy.cache.isHeld id
  checks
    : again.cache.checks + (Deed.pending deeds).length
      = copy.cache.checks + deeds.countP Deed.isStart

namespace Interceptor

/-- The interceptor with a mapping that has the same answer for every class. -/
def saying (interceptor : Interceptor ε μ) (mapped : Bool) : Interceptor ε μ :=
  { interceptor with mapping := fun _ => .done mapped }

variable [Entity ε μ]

/-- What a deed comes to as a call from outside. A resolution is made again where it was settled,
and what has only begun is not.
-/
def redo (interceptor : Interceptor ε μ) (state : State μ) : Deed → State μ
  | .hit cls => (((interceptor.saying false).find cls none).outcome state).2
  | .start .. => state
  | .settle cls factory eligible =>
      (((interceptor.saying eligible).find cls factory).outcome state).2
  | .evict key => ((evict key).outcome state).2
  | .clear => ((clear : Call (State μ) Unit).outcome state).2

variable {interceptor : Interceptor ε μ} {before reached copy : State μ} {deeds : List Deed}
  {ending : Ending}

theorem redo_hit {cls : EntityClass} {decision : Option Listener}
    (decided : copy.cache.decided? cls.id = some decision)
    : interceptor.redo copy (.hit cls) = copy.mapCache Cache.countHit := by
  rw [redo, find, outcome_findWith, decided]

theorem redo_evict {key : ClassKey} (free : copy.cache.isHeld key.id = false)
    : interceptor.redo copy (.evict key) = copy.mapCache (·.forget key.id) := by
  rw [redo, evict, Call.outcome_bind, Call.outcome_get]
  simp only [Call.andThen, free]
  rfl

/-- A resolution that is made again asks a mapping that has its answer ready. -/
theorem redo_settle {cls : EntityClass} {factory : Option SessionFactory} {eligible : Bool}
    {lock : LockId} {taken : Cache} (undecided : copy.cache.decided? cls.id = none)
    (enters : copy.cache.enter? cls.id = some (lock, taken))
    (own : eligible = true → interceptor.owns cls factory = true)
    : interceptor.redo copy (.settle cls factory eligible)
      = ((interceptor.settle cls eligible).outcome
          { copy with cache := taken.countCheck }).2.mapCache (·.release lock false) := by
  have checked (services : Services ε μ) (state : State μ)
      : ((interceptor.saying eligible).isEligible services cls factory).outcome state
        = (.ok eligible, state) := by
    unfold isEligible
    split
    · rfl
    · rename_i foreign
      cases eligible with
      | false => rfl
      | true => exact absurd (own rfl) foreign
  rw [redo, find, outcome_findWith, undecided, enters]
  simp only [holding, Call.outcome_ofOutcome, Call.outcome_bind, checked, Call.andThen]
  cases eligible <;> rfl

/-- A resolution that is made again where it was settled comes to what it came to. -/
theorem redone_settle {middle again : State μ} {cls : EntityClass}
    {factory : Option SessionFactory} {eligible : Bool}
    (redone : copy.Redone again middle deeds)
    (vacant : middle.cache.listeners.get? cls.id = none)
    (silent : middle.cache.triggers.get? cls.id = none) (unheld : copy.cache.isHeld cls.id = false)
    (own : eligible = true → interceptor.owns cls factory = true)
    (settled : Deed.pending deeds = [])
    (none : Deed.pending (.start cls factory :: deeds ++ [.settle cls factory eligible]) = [])
    (lock : LockId)
    : copy.Redone (interceptor.redo again (.settle cls factory eligible))
        (((interceptor.settle cls eligible).outcome middle).2.mapCache (·.release lock false))
        (.start cls factory :: deeds ++ [.settle cls factory eligible]) := by
  have vacant' : again.cache.listeners.get? cls.id = Option.none :=
    (redone.mirrors.listeners _).trans vacant
  have undecided : again.cache.decided? cls.id = Option.none := by
    unfold Cache.decided?
    rw [vacant', redone.mirrors.triggers, silent]
    rfl
  obtain ⟨lock', taken, enters⟩ := redone.paired.exists_enter ((redone.held cls.id).trans unheld)
  rw [redo_settle undecided enters own]
  obtain ⟨entered, -⟩ := redone.paired.enter enters
  obtain ⟨begun, -⟩ := counts_of_enter? enters
  have inside : State.Mirrors { again with cache := taken.countCheck } middle := by
    rw [Cache.enter?_frame enters]
    exact redone.mirrors.frame ⟨rfl, rfl, rfl, rfl, rfl, rfl⟩ ⟨rfl, rfl, rfl, rfl, rfl, rfl⟩
  have here := interceptor.settled_of_vacant cls eligible vacant
  have there := interceptor.settled_of_vacant cls eligible ((inside.listeners _).trans vacant)
  have within : taken.Returns .returned _ := .frame entered there.locks.1 there.locks.2
  have returns := Cache.Returns.release redone.paired enters within (by decide) .returned false
  refine ⟨(inside.settled there here).frame ⟨rfl, rfl, rfl, rfl, rfl, rfl⟩
      ⟨rfl, rfl, rfl, rfl, rfl, rfl⟩, returns.paired,
    fun id => (returns.free (by decide) id).trans (redone.held id), ?_⟩
  have starts
      : (Deed.start cls factory :: deeds ++ [Deed.settle cls factory eligible]).countP Deed.isStart
        = deeds.countP Deed.isStart + 1 := by
    simp [List.countP_cons, Deed.isStart]
  have checks := redone.checks
  rw [settled, List.length_nil, Nat.add_zero] at checks
  rw [none, starts, ← Nat.add_assoc, ← checks, ← begun]
  exact there.counted.1

/-- The deeds of a course, made again one after the other from a state that says the same, lead to a
state that says the same, and leave the locks as they were. What is missing there are the counts of
the resolutions that were not settled.
-/
theorem Course.redone (course : interceptor.Course before deeds ending reached)
    (tidy : interceptor.Tidy before) (copies : copy.Copies before)
    : copy.Redone (deeds.foldl interceptor.redo copy) reached deeds := by
  induction course generalizing copy with
  | stays => exact ⟨copies.mirrors, copies.paired, fun _ => rfl, rfl⟩
  | elsewhere => exact ⟨copies.mirrors.frame (by simp) (by simp), copies.paired, fun _ => rfl, rfl⟩
  | @append _ _ _ earlier later _ first rest ih ih' =>
      have redone := ih tidy copies
      have returns := first.returns tidy.paired
      have again : (earlier.foldl interceptor.redo copy).Copies _ :=
        ⟨redone.mirrors, redone.paired,
          fun id held => returns.held (copies.fewer id ((redone.held id).symm.trans held))⟩
      have redone' := ih' (first.tidy tidy) again
      rw [List.foldl_append]
      refine ⟨redone'.mirrors, redone'.paired,
        fun id => (redone'.held id).trans (redone.held id), ?_⟩
      have checks := redone.checks
      have checks' := redone'.checks
      rw [first.foldl_nest.2 rfl, List.length_nil] at checks
      rw [first.pending_append, List.countP_append]
      omega
  | hits decided =>
      have again := (copies.mirrors.decided? _).trans decided
      rw [List.foldl_cons, List.foldl_nil, redo_hit again]
      exact ⟨copies.mirrors.hit, copies.paired.frame rfl rfl, fun _ => rfl, rfl⟩
  | @settles state middle cls factory lock taken deeds eligible undecided enters within own ih =>
      obtain ⟨copies, unheld⟩ := copies.enter tidy.paired enters
      have redone := ih (tidy.enter undecided enters) copies
      obtain ⟨-, -, vacant, silent⟩ := within.inside tidy undecided enters
      have none := (Course.settles undecided enters within own).foldl_nest.2 rfl
      rw [List.foldl_append, List.foldl_cons, List.foldl_cons, List.foldl_nil, redo]
      exact redone_settle redone vacant silent unheld own (within.foldl_nest.2 rfl) none lock
  | @unwinds state middle cls factory lock taken deeds undecided enters within ih =>
      have redone := ih (tidy.enter undecided enters) (copies.enter tidy.paired enters).1
      have checks := redone.checks
      refine ⟨redone.mirrors.frame ⟨rfl, rfl, rfl, rfl, rfl, rfl⟩ ⟨rfl, rfl, rfl, rfl, rfl, rfl⟩,
        redone.paired, redone.held, ?_⟩
      rw [within.pending_start, List.length_append, List.countP_cons_of_pos rfl]
      exact congrArg (· + 1) checks
  | @hangs state middle cls factory lock taken deeds undecided enters within ih =>
      have redone := ih (tidy.enter undecided enters) (copies.enter tidy.paired enters).1
      have checks := redone.checks
      refine ⟨redone.mirrors, redone.paired, redone.held, ?_⟩
      rw [within.pending_start, List.length_append, List.countP_cons_of_pos rfl]
      exact congrArg (· + 1) checks
  | @evicts state key free =>
      have unheld : copy.cache.isHeld key.id = false := by
        cases held : copy.cache.isHeld key.id with
        | false => rfl
        | true => exact (copies.fewer _ held).symm.trans free
      rw [List.foldl_cons, List.foldl_nil, redo_evict unheld]
      exact ⟨copies.mirrors.forget _, copies.paired.frame rfl rfl, fun _ => rfl, rfl⟩
  | clears => exact ⟨copies.mirrors.clear, copies.paired.frame rfl rfl, fun _ => rfl, rfl⟩

end Interceptor

end Lifecycle
