import Lifecycle.Call
import Lifecycle.Event
import Lifecycle.State

/-! Programs of the code that an interceptor calls: the hooks of entities and the checks of a
mapping context. Such code works on what is its own and on a memory shared by all of it, and it
may call the interceptor back.
-/

namespace Lifecycle

/-- A program that owns a value of type `own`, shares a memory of type `μ`, and ends with a value
of type `α` or a panic. A continuation is given what the call before it answered.
-/
inductive Script (ε μ own α : Type) where
  | done (value : α)
  | panic
  | access (change : own × μ → own × μ) (next : own × μ → Script ε μ own α)
  | find (cls : EntityClass) (factory : Option SessionFactory)
    (next : Option Listener → Script ε μ own α)
  | evict (key : ClassKey) (next : Bool → Script ε μ own α)
  | clear (next : Script ε μ own α)
  | dispatch (announcement : Announcement ε)
    (next : Except Failure Unit → Announcement ε → Script ε μ own α)

/-- How the calls of a script are answered. -/
structure Services (ε μ : Type) where
  find : EntityClass → Option SessionFactory → Call (State μ) (Option Listener)
  evict : ClassKey → Call (State μ) Bool
  clear : Call (State μ) Unit
  dispatch : Call (Announcement ε × State μ) Unit

/-- No call comes back. -/
def Services.none {ε μ : Type} : Services ε μ where
  find _ _ := throw .hung
  evict _ := throw .hung
  clear := throw .hung
  dispatch := throw .hung

namespace Script

variable {ε μ own α β : Type}

/-- A script whose value is changed at its end. -/
def map (change : α → β) : Script ε μ own α → Script ε μ own β
  | .done value => .done (change value)
  | .panic => .panic
  | .access update next => .access update (fun reached => (next reached).map change)
  | .find cls factory next => .find cls factory (fun found => (next found).map change)
  | .evict key next => .evict key (fun dropped => (next dropped).map change)
  | .clear next => .clear (next.map change)
  | .dispatch announcement next =>
      .dispatch announcement (fun result reached => (next result reached).map change)

/-- Runs a script. A call that does not come back with an answer ends the script as well; a
failure of a nested dispatch is an answer.
-/
def run (services : Services ε μ) : Script ε μ own α → Call (own × State μ) α
  | .done value => pure value
  | .panic => throw .panicked
  | .access change next => do
      let (mine, state) ← get
      let (mine, memory) := change (mine, state.memory)
      set (mine, { state with memory })
      run services (next (mine, memory))
  | .find cls factory next => do
      let found ← (services.find cls factory).onSecond
      run services (next found)
  | .evict key next => do
      let dropped ← (services.evict key).onSecond
      run services (next dropped)
  | .clear next => do
      services.clear.onSecond
      run services next
  | .dispatch announcement next => do
      let (result, announcement) ← Call.onSecond (Call.lend services.dispatch.attempt announcement)
      run services (next result announcement)

end Script

end Lifecycle
