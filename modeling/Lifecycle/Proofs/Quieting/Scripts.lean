import Lifecycle.Proofs.Nesting.Coherence

/-! Scripts whose calls to the cache are left out. A script that would go on in the same way whatever
it is answered does the same without these calls, as far as it can see: to its own part, to the
clocks, and to what it looks at of the shared memory.
-/

namespace Lifecycle

variable {ε μ ν own σ α β : Type}

-----------------------------------------------------------------------------------------
-- Calls that are left out
-----------------------------------------------------------------------------------------

namespace Script

/-- The script with its calls to the cache left out. It goes on as if no listener had been found and
nothing had been dropped.
-/
def quieted : Script ε μ own α → Script ε μ own α
  | .done value => .done value
  | .panic => .panic
  | .access change next => .access change (fun reached => (next reached).quieted)
  | .find _ _ next => (next none).quieted
  | .evict _ next => (next false).quieted
  | .clear next => next.quieted
  | .dispatch announcement next =>
      .dispatch announcement (fun result left => (next result left).quieted)

/-- What a script does does not depend on what its calls to the cache are answered, nor on anything in
the shared memory that is not in view. It dispatches nothing.
-/
def Indifferent (view : μ → ν) : Script ε μ own α → Prop
  | .done _ | .panic => True
  | .access change next =>
      (∀ mine memory memory',
        view memory = view memory'
        → (change (mine, memory)).1 = (change (mine, memory')).1
          ∧ view (change (mine, memory)).2 = view (change (mine, memory')).2
          ∧ (next (change (mine, memory))).quieted = (next (change (mine, memory'))).quieted)
      ∧ ∀ reached, (next reached).Indifferent view
  | .find _ _ next =>
      ∀ found, (next found).quieted = (next none).quieted ∧ (next found).Indifferent view
  | .evict _ next =>
      ∀ dropped, (next dropped).quieted = (next false).quieted ∧ (next dropped).Indifferent view
  | .clear next => next.Indifferent view
  | .dispatch _ _ => False

/-- A script changes nothing that is in view and dispatches nothing. -/
def Discreet (view : μ → ν) : Script ε μ own α → Prop
  | .done _ | .panic => True
  | .access change next =>
      (∀ mine memory, view (change (mine, memory)).2 = view memory)
      ∧ ∀ reached, (next reached).Discreet view
  | .find _ _ next => ∀ found, (next found).Discreet view
  | .evict _ next => ∀ dropped, (next dropped).Discreet view
  | .clear next => next.Discreet view
  | .dispatch _ _ => False

/-- A script never evicts the class of the id. -/
def Spares (id : TypeId) : Script ε μ own α → Prop
  | .done _ | .panic => True
  | .access _ next => ∀ reached, (next reached).Spares id
  | .find _ _ next => ∀ found, (next found).Spares id
  | .evict key next => key.id ≠ id ∧ ∀ dropped, (next dropped).Spares id
  | .clear next => next.Spares id
  | .dispatch _ next => ∀ result left, (next result left).Spares id

/-- Every listener that a script looks for is answered: no check panics or waits for ever. -/
def FindsReturn (services : Services ε μ) : Script ε μ own α → own → State μ → Prop
  | .done _ | .panic | .dispatch _ _ => fun _ _ => True
  | .access change next => fun mine state =>
      let (mine, memory) := change (mine, state.memory)
      (next (mine, memory)).FindsReturn services mine { state with memory }
  | .find cls factory next => fun mine state =>
      ∃ found reached,
        (services.find cls factory).outcome state = (.ok found, reached)
        ∧ (next found).FindsReturn services mine reached
  | .evict key next => fun mine state =>
      ∀ dropped reached,
        (services.evict key).outcome state = (.ok dropped, reached)
        → (next dropped).FindsReturn services mine reached
  | .clear next => fun mine state =>
      ∀ reached,
        services.clear.outcome state = (.ok (), reached) → next.FindsReturn services mine reached

/-- Only the value is changed at the end of a script, with or without its calls. -/
theorem quieted_map (change : α → β) (script : Script ε μ own α)
    : (script.map change).quieted = script.quieted.map change := by
  induction script with
  | done | panic => rfl
  | access update next ih => simp [map, quieted, ih]
  | find cls factory next ih => simp [map, quieted, ih]
  | evict key next ih => simp [map, quieted, ih]
  | clear next ih => simp [map, quieted, ih]
  | dispatch announcement next ih => simp [map, quieted, ih]

/-- A script that dispatches nothing runs alike wherever its other calls are answered alike. -/
theorem Discreet.run_eq {view : μ → ν} {services services' : Services ε μ}
    (finds : services.find = services'.find) (evicts : services.evict = services'.evict)
    (clears : services.clear = services'.clear) {script : Script ε μ own α}
    (discreet : script.Discreet view)
    : script.run services = script.run services' := by
  induction script with
  | done | panic => rfl
  | access change next ih => simp [run, ih _ (discreet.2 _)]
  | find cls factory next ih => simp [run, finds, ih _ (discreet _)]
  | evict key next ih => simp [run, evicts, ih _ (discreet _)]
  | clear next ih => simp [run, clears, ih discreet]
  | dispatch announcement next ih => exact discreet.elim

end Script

-----------------------------------------------------------------------------------------
-- What is seen of a state
-----------------------------------------------------------------------------------------

/-- Two states look the same to whoever does not look at the cache: the clocks have been read as
often, and what is in view of the memory is the same.
-/
structure State.Seems (view : μ → ν) (one other : State μ) : Prop where
  readings : one.readings = other.readings
  memory : view one.memory = view other.memory

namespace State.Seems

variable {view : μ → ν} {one other third : State μ}

theorem refl (view : μ → ν) (state : State μ) : state.Seems view state := ⟨rfl, rfl⟩

theorem trans (first : one.Seems view other) (second : other.Seems view third)
    : one.Seems view third :=
  ⟨first.readings.trans second.readings, first.memory.trans second.memory⟩

theorem mapCache (seems : one.Seems view other) (change : Cache → Cache)
    : (one.mapCache change).Seems view other :=
  ⟨seems.readings, seems.memory⟩

end State.Seems

/-- A call leaves a state that looks as before. -/
def Call.Unseen (view : μ → ν) (call : Call (State μ) α) : Prop :=
  ∀ state, (call.outcome state).2.Seems view state

/-- No call to the cache is seen. -/
structure Services.Unseen (view : μ → ν) (services : Services ε μ) : Prop where
  find : ∀ cls factory, (services.find cls factory).Unseen view
  evict : ∀ key, (services.evict key).Unseen view
  clear : services.clear.Unseen view

namespace Call.Unseen

variable {view : μ → ν}

theorem throw (stop : Stop) : (MonadExcept.throw stop : Call (State μ) α).Unseen view :=
  fun state => .refl view state

theorem bind {call : Call (State μ) α} {next : α → Call (State μ) β}
    (first : call.Unseen view) (rest : ∀ value, (next value).Unseen view)
    : (call >>= next).Unseen view := by
  intro state
  have begun := first state
  rw [outcome_bind]
  rcases ends : call.outcome state with ⟨stop | value, reached⟩
  · rwa [ends] at begun
  · rw [ends] at begun
    exact (rest value reached).trans begun

/-- What is not seen of a call is not seen of what it is followed by either. -/
theorem seems_andThen {call : Call (State μ) α} (unseen : call.Unseen view)
    {next : α → Call (own × State μ) β}
    (rest : ∀ value mine state, ((next value).outcome (mine, state)).2.2.Seems view state)
    (mine : own) (state : State μ)
    : ((call.onSecond >>= next).outcome (mine, state)).2.2.Seems view state := by
  have begun := unseen state
  simp only [outcome_bind, onSecond, outcome_ofOutcome]
  rcases ends : call.outcome state with ⟨stop | value, reached⟩
  · rwa [ends] at begun
  · rw [ends] at begun
    exact (rest value mine reached).trans begun

end Call.Unseen

/-- A discreet script leaves a state that looks as before if no call to the cache is seen. -/
theorem Script.Discreet.seems {view : μ → ν} {services : Services ε μ}
    (unseen : services.Unseen view) {script : Script ε μ own α} (discreet : script.Discreet view)
    (mine : own) (state : State μ)
    : ((script.run services).outcome (mine, state)).2.2.Seems view state := by
  induction script generalizing mine state with
  | done | panic => exact .refl view state
  | access change next ih =>
      simp only [run, Call.outcome_bind, Call.outcome_get, Call.andThen, Call.outcome_set]
      exact (ih _ (discreet.2 _) _ _).trans ⟨rfl, discreet.1 mine state.memory⟩
  | find cls factory next ih =>
      exact (unseen.find cls factory).seems_andThen (fun found => ih found (discreet found)) ..
  | evict key next ih =>
      exact (unseen.evict key).seems_andThen (fun dropped => ih dropped (discreet dropped)) ..
  | clear next ih => exact unseen.clear.seems_andThen (fun _ => ih discreet) ..
  | dispatch announcement next ih => exact discreet.elim

end Lifecycle
