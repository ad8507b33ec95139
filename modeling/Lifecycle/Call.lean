import Lifecycle.Failure

/-! Calls that change a state and may stop without an answer. Whatever stops a call, the state
it has reached stays: nothing is undone.
-/

namespace Lifecycle

/-- Why a call gave no answer: it failed, it panicked, or it never comes back, because it waits
for a lock that its own caller holds or because calls nest too deeply.
-/
inductive Stop where
  | failed (cause : Failure)
  | panicked
  | hung
  deriving DecidableEq, Repr

/-- A call that works on a state. -/
abbrev Call (σ α : Type) := ExceptT Stop (StateM σ) α

namespace Call

variable {σ τ α β : Type}

def outcome (call : Call σ α) (state : σ) : Except Stop α × σ := call.run.run state

def ofOutcome (act : σ → Except Stop α × σ) : Call σ α := ExceptT.mk (fun state => act state)

def onSecond (call : Call σ α) : Call (τ × σ) α :=
  ofOutcome (fun (rest, state) =>
    let (result, state) := call.outcome state
    (result, rest, state))

/-- A call on a pair, given the first part and giving it back beside the answer. -/
def lend (call : Call (τ × σ) α) (first : τ) : Call σ (α × τ) :=
  ofOutcome (fun state =>
    match call.outcome (first, state) with
    | (.ok value, first, state) => (.ok (value, first), state)
    | (.error stop, _, state) => (.error stop, state))

/-- Gives the answer, or fails with the failure in its place. -/
def answer : Except Failure α → Call σ α
  | .ok value => pure value
  | .error cause => throw (.failed cause)

/-- Turns a failure into an answer; a panic and an endless call stay what they are. -/
def attempt (call : Call σ α) : Call σ (Except Failure α) :=
  ofOutcome (fun state =>
    match call.outcome state with
    | (.ok value, state) => (.ok (.ok value), state)
    | (.error (.failed cause), state) => (.ok (.error cause), state)
    | (.error stop, state) => (.error stop, state))

/-- What to do after a call: go on with its value, or stop as it stopped. -/
def andThen (next : α → Call σ β) : Except Stop α × σ → Except Stop β × σ
  | (.ok value, state) => (next value).outcome state
  | (.error stop, state) => (.error stop, state)

@[simp] theorem outcome_ofOutcome (act : σ → Except Stop α × σ) (state : σ)
    : (ofOutcome act).outcome state = act state := rfl

@[simp] theorem outcome_pure (value : α) (state : σ)
    : (pure value : Call σ α).outcome state = (.ok value, state) := rfl

@[simp] theorem outcome_throw (stop : Stop) (state : σ)
    : (throw stop : Call σ α).outcome state = (.error stop, state) := rfl

@[simp] theorem outcome_get (state : σ) : (get : Call σ σ).outcome state = (.ok state, state) := rfl

@[simp] theorem outcome_set (next state : σ)
    : (set next : Call σ PUnit).outcome state = (.ok ⟨⟩, next) := rfl

@[simp] theorem outcome_modify (change : σ → σ) (state : σ)
    : (modify change : Call σ PUnit).outcome state = (.ok ⟨⟩, change state) := rfl

/-- A call that stops is not gone on with, and its state stays. -/
theorem outcome_bind (call : Call σ α) (next : α → Call σ β) (state : σ)
    : (call >>= next).outcome state = andThen next (call.outcome state) := by
  show ((call.run >>= ExceptT.bindCont next).run state) = _
  unfold andThen outcome
  simp only [StateT.run_bind]
  rcases call.run.run state with ⟨result, reached⟩
  cases result <;> rfl

theorem outcome_answer (result : Except Failure α) (state : σ)
    : (answer result).outcome state = (result.mapError .failed, state) := by
  cases result <;> rfl

/-- Changing the value of a call changes nothing else about it. -/
theorem outcome_map (change : α → β) (call : Call σ α) (state : σ)
    : (change <$> call).outcome state
      = ((call.outcome state).1.map change, (call.outcome state).2) := by
  rw [map_eq_pure_bind, outcome_bind]
  rcases call.outcome state with ⟨result, reached⟩
  cases result <;> rfl

end Call

end Lifecycle
