import Lifecycle.Proofs.Resolution.Silence

/-! What an interceptor answers, as one table says it. A class is undecided, or decided for good:
its events reach no listener, or they reach the one listener that was made for it. The table knows
nothing of locks, of two caches or of counters.
-/

namespace Lifecycle

/-- What can be asked of an interceptor from outside, one thing after the other: the listener of a
class or of nothing, an eviction, the eviction of all, another clock. Between two of these, clocks
may be read and the memory of the code that the interceptor calls may change.
-/
inductive Operation (μ : Type) where
  | find (cls : Option EntityClass) (factory : Option SessionFactory)
  | evict (key : ClassKey)
  | clear
  | setClock (clock : Clock)
  | elsewhere (readings : Readings) (memory : μ)

/-- What an operation answers. -/
inductive Answer where
  | found (listener : Option Listener)
  | evicted (dropped : Bool)
  | done

/-- What is decided of each class, and what the next decision depends on. -/
structure Memo (μ : Type) where
  decision : TypeId → Option (Option Listener)
  made : Nat
  clock : Clock
  memory : μ

namespace Memo

variable {ε μ : Type}

def initial (clock : Clock) (memory : μ) : Memo μ := ⟨fun _ => none, 0, clock, memory⟩

def decide (memo : Memo μ) (id : TypeId) (decision : Option Listener) : Memo μ :=
  { memo with decision := fun other => if other = id then some decision else memo.decision other }

def forget (memo : Memo μ) (id : TypeId) : Memo μ :=
  { memo with decision := fun other => if other = id then none else memo.decision other }

def forgetAll (memo : Memo μ) : Memo μ := { memo with decision := fun _ => none }

/-- Decides on a class: for a new listener, or for none. -/
def settle (memo : Memo μ) (cls : EntityClass) (config : Config)
    : Bool → Option Listener × Memo μ
  | true =>
      let listener := Listener.make memo.made cls config memo.clock
      (some listener, { memo with made := memo.made + 1 }.decide cls.id (some listener))
  | false => (none, memo.decide cls.id none)

/-- Decides on an undecided class: for a listener, if the event is the datastore's own and the
mapping maps the class. The mapping is asked once if the event is the datastore's own and otherwise
not at all; if it panics the class stays undecided.
-/
def resolve (memo : Memo μ) (interceptor : Interceptor ε μ) (cls : EntityClass)
    (factory : Option SessionFactory) : Except Stop (Option Listener) × Memo μ :=
  if interceptor.owns cls factory then
    match interceptor.check cls memo.memory with
    | (.ok mapped, memory) =>
        let (decision, memo) := { memo with memory }.settle cls interceptor.config mapped
        (.ok decision, memo)
    | (.error stop, memory) => (.error stop, { memo with memory })
  else
    let (decision, memo) := memo.settle cls interceptor.config false
    (.ok decision, memo)

/-- The decision on a class, made now if there is none. -/
def find (memo : Memo μ) (interceptor : Interceptor ε μ) (cls : EntityClass)
    (factory : Option SessionFactory) : Except Stop (Option Listener) × Memo μ :=
  match memo.decision cls.id with
  | some decision => (.ok decision, memo)
  | none => memo.resolve interceptor cls factory

def perform (interceptor : Interceptor ε μ) (memo : Memo μ)
    : Operation μ → Except Stop Answer × Memo μ
  | .find none _ => (.ok (.found none), memo)
  | .find (some cls) factory =>
      let (found, memo) := memo.find interceptor cls factory
      (found.map Answer.found, memo)
  | .evict key => (.ok (.evicted (memo.decision key.id).isSome), memo.forget key.id)
  | .clear => (.ok .done, memo.forgetAll)
  | .setClock clock => (.ok .done, { memo.forgetAll with clock })
  | .elsewhere _ memory => (.ok .done, { memo with memory })

@[simp] theorem memory_settle (memo : Memo μ) (cls : EntityClass) (config : Config)
    (eligible : Bool)
    : (memo.settle cls config eligible).2.memory = memo.memory := by
  cases eligible <;> rfl

/-- The mapping is asked about a class as long as it is undecided, by the events of the datastore's
own, and about nothing else.
-/
theorem tally_find (interceptor : Interceptor ε μ) (tally : μ → Nat)
    (counts : ∀ cls memory, tally (interceptor.check cls memory).2 = tally memory + 1)
    (memo : Memo μ) (cls : EntityClass) (factory : Option SessionFactory)
    : tally (memo.find interceptor cls factory).2.memory
      = tally memo.memory
        + if (memo.decision cls.id).isNone && interceptor.owns cls factory then 1 else 0 := by
  unfold find
  cases memo.decision cls.id with
  | some decision => rfl
  | none =>
      have counted := counts cls memo.memory
      unfold resolve
      cases interceptor.owns cls factory with
      | false => rfl
      | true =>
          rcases checked : interceptor.check cls memo.memory with ⟨stop | mapped, memory⟩
          · rw [checked] at counted
            exact counted
          · rw [checked] at counted
            simpa using counted

end Memo

namespace Interceptor

variable {ε μ : Type} [Entity ε μ]

def perform (interceptor : Interceptor ε μ) : Operation μ → Call (State μ) Answer
  | .find none _ => pure (.found none)
  | .find (some cls) factory => Answer.found <$> interceptor.find cls factory
  | .evict key => Answer.evicted <$> evict key
  | .clear => do
      clear
      pure .done
  | .setClock clock => do
      setClock clock
      pure .done
  | .elsewhere readings memory => do
      modify (fun state => { state with readings, memory })
      pure .done

/-- Asking for the listener of an entity is asking for that of its class. -/
theorem findFor_eq_perform (interceptor : Interceptor ε μ) (entity : Option ε)
    (factory : Option SessionFactory)
    : Answer.found <$> interceptor.findFor entity factory
      = interceptor.perform (.find (entity.map Entity.cls) factory) := by
  cases entity with
  | none => rfl
  | some entity => rfl

end Interceptor

/-- What a list of operations answers, one after the other, and the state it leads to. An
operation that panics is followed by the next one all the same.
-/
def answers {ω σ β : Type} (act : σ → ω → β × σ) (state : σ) : List ω → List β × σ
  | [] => ([], state)
  | operation :: rest =>
      let (answer, state) := act state operation
      let (others, state) := answers act state rest
      (answer :: others, state)

theorem answers_append {ω σ β : Type} (act : σ → ω → β × σ) (state : σ) (first rest : List ω)
    : (answers act state (first ++ rest)).2 = (answers act (answers act state first).2 rest).2 := by
  induction first generalizing state with
  | nil => rfl
  | cons operation others ih => exact ih _

/-- The state that operations lead to. -/
def Interceptor.after {ε μ : Type} [Entity ε μ] (interceptor : Interceptor ε μ) (state : State μ)
    (operations : List (Operation μ)) : State μ :=
  (answers (fun state operation => (interceptor.perform operation).outcome state) state
    operations).2

/-- Two systems that answer every operation alike, from states that belong together to states that
belong together, answer every list of operations alike.
-/
theorem answers_simulates {ω σ τ β : Type} {act : σ → ω → β × σ} {model : τ → ω → β × τ}
    (belongs : σ → τ → Prop)
    (step
      : ∀ {state memo} operation,
          belongs state memo
          → (act state operation).1 = (model memo operation).1
            ∧ belongs (act state operation).2 (model memo operation).2)
    {state : σ} {memo : τ} (start : belongs state memo) (operations : List ω)
    : (answers act state operations).1 = (answers model memo operations).1
      ∧ belongs (answers act state operations).2 (answers model memo operations).2 := by
  induction operations generalizing state memo with
  | nil => exact ⟨rfl, start⟩
  | cons operation rest ih =>
      obtain ⟨same, next⟩ := step operation start
      obtain ⟨others, last⟩ := ih next
      exact ⟨congr (congrArg List.cons same) others, last⟩

end Lifecycle
