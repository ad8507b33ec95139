import Lifecycle.Script

/-! Lists of what calls do. What is of interest about calls is listed in the order in which it
happens, however deep they are nested: there is a list for each call that services answer, and a
script has those of the calls that it makes. If the lists tell how the calls change the state, that
of a script tells how the script does.
-/

namespace Lifecycle

/-- How a call ends: it comes back with an answer or a failure, it panics, or it never ends. -/
inductive Ending where
  | returned
  | panicked
  | hung
  deriving DecidableEq, Repr

def Ending.of {α : Type} : Except Stop α → Ending
  | .ok _ | .error (.failed _) => .returned
  | .error .panicked => .panicked
  | .error .hung => .hung

/-- What is listed of each call that services answer, made in a state. -/
structure Listing (ε μ ω : Type) where
  find : EntityClass → Option SessionFactory → State μ → List ω
  evict : ClassKey → State μ → List ω
  clear : State μ → List ω
  dispatch : Announcement ε → State μ → List ω

variable {ε μ ω : Type}

/-- Nothing is listed of calls that do not come back. -/
def Listing.none : Listing ε μ ω := ⟨fun _ _ _ => [], fun _ _ => [], fun _ => [], fun _ _ => []⟩

/-- What is listed of a call, and then of what comes after it if it gives an answer. -/
def Call.listThen {σ α : Type} (call : Call (σ × State μ) α) (list : σ → State μ → List ω)
    (next : α → σ → State μ → List ω) (start : σ) (state : State μ)
    : List ω :=
  list start state
    ++ match call.outcome (start, state) with
      | (.ok value, start, state) => next value start state
      | (.error _, _) => []

/-- What is listed of a script: for each access, what is given for the state before it and the
memory after it, and for each call what is listed of the call.
-/
def Script.listing {own α : Type} (accessed : State μ → μ → List ω) (services : Services ε μ)
    (made : Listing ε μ ω)
    : Script ε μ own α → own → State μ → List ω
  | .done _ | .panic => fun _ _ => []
  | .access change next => fun mine state =>
      let (mine, memory) := change (mine, state.memory)
      accessed state memory
        ++ (next (mine, memory)).listing accessed services made mine { state with memory }
  | .find cls factory next =>
      Call.listThen (services.find cls factory).onSecond (fun _ => made.find cls factory)
        (fun found => (next found).listing accessed services made)
  | .evict key next =>
      Call.listThen (services.evict key).onSecond (fun _ => made.evict key)
        (fun dropped => (next dropped).listing accessed services made)
  | .clear next =>
      Call.listThen services.clear.onSecond (fun _ => made.clear)
        (fun _ => next.listing accessed services made)
  | .dispatch announcement next =>
      Call.listThen (Call.onSecond (Call.lend services.dispatch.attempt announcement))
        (fun _ => made.dispatch announcement)
        (fun (result, reached) => (next result reached).listing accessed services made)

-----------------------------------------------------------------------------------------
-- Lists that tell how the state changes
-----------------------------------------------------------------------------------------

/-- States may lead to others by what is listed, and calls end as told: if nothing is listed nothing
changes, what is listed of an access leads to the changed memory, and what is listed of calls that
come back may be followed by more.
-/
structure Tells (leads : State μ → List ω → Ending → State μ → Prop)
    (accessed : State μ → μ → List ω) : Prop where
  stays : ∀ state ending, leads state [] ending state
  accesses : ∀ state memory, leads state (accessed state memory) .returned { state with memory }
  append
    : ∀ {before middle reached earlier later ending},
        leads before earlier .returned middle
        → leads middle later ending reached
        → leads before (earlier ++ later) ending reached

/-- What is listed of a call leads to the state that it reaches. -/
def Call.Told {σ α : Type} (leads : State μ → List ω → Ending → State μ → Prop)
    (call : Call (σ × State μ) α) (list : σ → State μ → List ω) : Prop :=
  ∀ start state,
    leads state (list start state) (.of (call.outcome (start, state)).1)
      (call.outcome (start, state)).2.2

/-- What is listed of the calls that services answer leads to the states that they reach. -/
structure Services.Told (services : Services ε μ)
    (leads : State μ → List ω → Ending → State μ → Prop) (made : Listing ε μ ω) : Prop where
  find
    : ∀ cls factory state,
        leads state (made.find cls factory state)
          (.of ((services.find cls factory).outcome state).1)
          ((services.find cls factory).outcome state).2
  evict
    : ∀ key state,
        leads state (made.evict key state) (.of ((services.evict key).outcome state).1)
          ((services.evict key).outcome state).2
  clear
    : ∀ state,
        leads state (made.clear state) (.of (services.clear.outcome state).1)
          (services.clear.outcome state).2
  dispatch : services.dispatch.Told leads made.dispatch

namespace Tells

variable {σ own α β : Type} {leads : State μ → List ω → Ending → State μ → Prop}
  {accessed : State μ → μ → List ω} {services : Services ε μ} {made : Listing ε μ ω}

/-- What is listed of a call comes before what is listed of what follows it. -/
theorem bind (tells : Tells leads accessed) {call : Call (σ × State μ) α}
    {next : α → Call (σ × State μ) β} {list : σ → State μ → List ω}
    {later : α → σ → State μ → List ω} (first : call.Told leads list)
    (rest : ∀ value, (next value).Told leads (later value))
    : (call >>= next).Told leads (call.listThen list later) := by
  intro start state
  have begun := first start state
  rw [Call.outcome_bind, Call.listThen]
  rcases ends : call.outcome (start, state) with ⟨stop | value, middle, reached⟩
  · rw [ends] at begun
    simp only [Call.andThen, List.append_nil]
    cases stop <;> exact begun
  · rw [ends] at begun
    exact tells.append begun (rest value middle reached)

/-- What is listed of a script leads to the state that it reaches, by induction on the script. -/
theorem run (tells : Tells leads accessed) (told : services.Told leads made)
    (script : Script ε μ own α)
    : (script.run services).Told leads (script.listing accessed services made) := by
  induction script with
  | done | panic => exact fun _ state => tells.stays state _
  | access change next ih =>
      intro mine state
      rw [Script.run, Call.outcome_bind, Call.outcome_get]
      simp only [Call.andThen, Call.outcome_bind, Call.outcome_set]
      exact tells.append (tells.accesses state _) (ih _ _ _)
  | find cls factory next ih => exact tells.bind (fun _ => told.find cls factory) ih
  | evict key next ih => exact tells.bind (fun _ => told.evict key) ih
  | clear next ih => exact tells.bind (fun _ => told.clear) (fun _ => ih)
  | dispatch announcement next ih =>
      refine tells.bind (fun _ state => ?_) (fun answered => ih answered.1 answered.2)
      have dispatched := told.dispatch announcement state
      simp only [Call.onSecond, Call.lend, Call.attempt, Call.outcome_ofOutcome]
      rcases ends : services.dispatch.outcome (announcement, state)
        with ⟨(cause | _ | _) | value, reached⟩
      all_goals
        rw [ends] at dispatched
        exact dispatched

end Tells

end Lifecycle
