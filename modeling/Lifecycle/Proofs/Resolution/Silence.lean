import Lifecycle.Interceptor.Dispatch

/-! Scripts that do not call the interceptor back. What such a script does can be told without an
interceptor: it depends on what is its own and on the memory, and changes nothing else.
-/

namespace Lifecycle

namespace Script

variable {ε μ own α : Type}

/-- The script never calls the interceptor. -/
def Silent : Script ε μ own α → Prop
  | .done _ | .panic => True
  | .access _ next => ∀ reached, (next reached).Silent
  | .find .. | .evict .. | .clear _ | .dispatch .. => False

/-- What a script comes to on its own; a call of the interceptor would not come back. -/
def evaluate : Script ε μ own α → own × μ → Except Stop α × own × μ
  | .done value, start => (.ok value, start)
  | .panic, start => (.error .panicked, start)
  | .access change next, start => (next (change start)).evaluate (change start)
  | .find .., start | .evict .., start | .clear _, start | .dispatch .., start =>
      (.error .hung, start)

/-- A silent script comes to what it comes to on its own, whoever would answer its calls. -/
theorem outcome_run_of_silent {script : Script ε μ own α} (silent : script.Silent)
    (services : Services ε μ) (mine : own) (state : State μ)
    : (script.run services).outcome (mine, state)
      = let (result, mine, memory) := script.evaluate (mine, state.memory)
        (result, mine, { state with memory }) := by
  induction script generalizing mine state with
  | done value => rfl
  | panic => rfl
  | access change next ih =>
      rw [run, Call.outcome_bind, Call.outcome_get]
      simp only [Call.andThen, Call.outcome_bind, Call.outcome_set]
      rw [ih _ (silent _)]
      rfl
  | find | evict | clear | dispatch => exact silent.elim

/-- A silent script answers or panics. -/
theorem evaluate_of_silent {script : Script ε μ own α} (silent : script.Silent)
    (start : own × μ)
    : (∃ value, (script.evaluate start).1 = .ok value)
      ∨ (script.evaluate start).1 = .error .panicked := by
  induction script generalizing start with
  | done value => exact Or.inl ⟨value, rfl⟩
  | panic => exact Or.inr rfl
  | access change next ih => exact ih _ (silent _) (change start)
  | find | evict | clear | dispatch => exact silent.elim

end Script

namespace Interceptor

variable {ε μ : Type}

/-- The mapping never calls the interceptor. -/
def Silent (interceptor : Interceptor ε μ) : Prop := ∀ cls, (interceptor.mapping cls).Silent

/-- What the mapping says of a class if it is asked with the given memory, and the memory after
that.
-/
def check (interceptor : Interceptor ε μ) (cls : EntityClass) (memory : μ)
    : Except Stop Bool × μ :=
  let (result, _, memory) := (interceptor.mapping cls).evaluate ((), memory)
  (result, memory)

variable {interceptor : Interceptor ε μ}

/-- A mapping that calls nobody back answers or panics. -/
theorem Silent.check_eq (silent : interceptor.Silent) (cls : EntityClass) (memory : μ)
    : ∃ after,
        (∃ mapped, interceptor.check cls memory = (.ok mapped, after))
        ∨ interceptor.check cls memory = (.error .panicked, after) := by
  refine ⟨((interceptor.mapping cls).evaluate ((), memory)).2.2, ?_⟩
  rcases Script.evaluate_of_silent (silent cls) ((), memory) with ⟨mapped, answers⟩ | panics
  · exact Or.inl ⟨mapped, congrArg (·, _) answers⟩
  · exact Or.inr (congrArg (·, _) panics)

/-- The mapping is asked once about a class if the event is the datastore's own, and otherwise not
at all.
-/
theorem Silent.outcome_isEligible (silent : interceptor.Silent) (services : Services ε μ)
    (cls : EntityClass) (factory : Option SessionFactory) (state : State μ)
    : (interceptor.isEligible services cls factory).outcome state
      = if interceptor.owns cls factory then
          let (result, memory) := interceptor.check cls state.memory
          (result, { state with memory })
        else (.ok false, state) := by
  unfold isEligible
  split
  · have run := Script.outcome_run_of_silent (silent cls) services () state
    show (do let answer ← Call.lend _ (); pure answer.1 : Call (State μ) Bool).outcome state = _
    rw [Call.outcome_bind, Call.lend, Call.outcome_ofOutcome, run, check]
    rcases (interceptor.mapping cls).evaluate ((), state.memory) with ⟨result, own, memory⟩
    cases result <;> rfl
  · rfl

/-- It makes no difference to a silent mapping who would answer its calls. -/
theorem Silent.findWith_eq (silent : interceptor.Silent) (services other : Services ε μ)
    (cls : EntityClass) (factory : Option SessionFactory)
    : interceptor.findWith services cls factory = interceptor.findWith other cls factory := by
  have same : interceptor.isEligible services cls factory
      = interceptor.isEligible other cls factory := by
    funext state
    exact (silent.outcome_isEligible services cls factory state).trans
      (silent.outcome_isEligible other cls factory state).symm
  unfold findWith resolve
  rw [same]

end Interceptor

end Lifecycle
