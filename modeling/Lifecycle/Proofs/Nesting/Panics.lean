import Lifecycle.Proofs.Nesting.Agreement
import Lifecycle.Proofs.Routing.Hooks

/-! Checks of a mapping that panic. A search that ends so has decided nothing of any class whose
resolution the panic has passed through, and it reaches no hook. From then on the interceptor
answers as if the calls that had come back by then had been made from outside, and no other.
-/

namespace Lifecycle

theorem Ending.of_eq_panicked_iff {α : Type} {result : Except Stop α}
    : Ending.of result = .panicked ↔ result = .error .panicked := by
  rcases result with (cause | _ | _) | value <;> simp [Ending.of]

namespace Interceptor

open Deed (pending)

variable {ε μ : Type} [Entity ε μ]

/-- What there would be instead of a state that was reached, if its deeds had been done one after
the other from outside, each with the answer that the mapping gave. Whatever code did to its own
memory stays done.
-/
def instead (interceptor : Interceptor ε μ) (state : State μ) (deeds : List Deed)
    (reached : State μ)
    : State μ :=
  { deeds.foldl interceptor.redo state with
    readings := reached.readings
    memory := reached.memory }

/-- A state that was reached is not told from what there would be instead, unless a lock is kept.
-/
theorem Course.alike_instead {interceptor : Interceptor ε μ} {before reached : State μ}
    {deeds : List Deed} {ending : Ending}
    (course : interceptor.Course before deeds ending reached) (ends : ending ≠ .hung)
    (tidy : interceptor.Tidy before)
    : (interceptor.instead before deeds reached).Alike reached := by
  have redone := course.redone tidy ⟨.refl before, tidy.paired, fun _ held => held⟩
  have returns := course.returns tidy.paired
  refine ⟨?_, ⟨redone.paired, returns.paired⟩, fun id => ?_, rfl, rfl⟩
  · exact redone.mirrors.frame ⟨rfl, rfl, rfl, rfl, rfl, rfl⟩ ⟨rfl, rfl, rfl, rfl, rfl, rfl⟩
  · exact (redone.held id).trans (returns.free ends id).symm

section Panics

variable {services : Services ε μ} {made : Deeds ε μ} {state : State μ}
  {interceptor : Interceptor ε μ} {cls : EntityClass} {factory : Option SessionFactory}

omit [Entity ε μ] in
/-- Among the resolutions that a panic has passed through is that of the class that was searched
for.
-/
theorem mem_pending_of_panicked (take : services.Take interceptor made)
    (panics
      : ((interceptor.findWith services cls factory).outcome state).1 = .error .panicked)
    : cls ∈ pending (interceptor.findDeeds services made cls factory state) := by
  rw [outcome_findWith] at panics
  unfold findDeeds
  cases decided : state.cache.decided? cls.id with
  | some decision =>
      rw [decided] at panics
      cases panics
  | none =>
      cases enters : state.cache.enter? cls.id with
      | none =>
          rw [decided, enters] at panics
          cases panics
      | some taken =>
          obtain ⟨lock, taken⟩ := taken
          have checked :=
            interceptor.course_isEligible take cls factory { state with cache := taken.countCheck }
          simp only [decided, enters, holding, Call.outcome_ofOutcome, Call.outcome_bind,
            Call.andThen] at panics
          rcases ends : (interceptor.isEligible services cls factory).outcome
              { state with cache := taken.countCheck } with ⟨stop | eligible, middle⟩
          · simp only [ends, List.append_nil]
            rw [checked.pending_start]
            exact List.mem_append_right _ (List.mem_singleton_self cls)
          · rw [ends] at panics
            cases eligible <;> cases panics

/-- A panic of a check changes nothing but a counter, in whatever state the interceptor is, however
deep the check was nested and whatever the checks did before it. An event that searches so reaches
no hook (as a recording shows) and stays as it was. Nothing is remembered of the classes whose
resolutions the panic has passed through, the one searched for among them. Listeners have been made
by the resolutions that were settled, and each resolution that began has been counted. Whatever is
done later, with whatever mapping, all searches are answered as if the panic had never been and only
the calls that had come back by then had been made, from outside; only the resolutions that were not
settled are counted beyond that.
-/
theorem panic_leaves_no_trace (interceptor : Interceptor ε μ) {state : State μ}
    (reachable : interceptor.Reachable state) (depth : Nat) (cls : EntityClass)
    (factory : Option SessionFactory)
    (panics
      : ((interceptor.findWith (interceptor.servicesTo depth) cls factory).outcome state).1
        = .error .panicked)
    : let services := interceptor.servicesTo depth
      let reached := ((interceptor.findWith services cls factory).outcome state).2
      let deeds :=
        interceptor.findDeeds services (interceptor.deedsTo depth) cls factory state
      let instead := interceptor.instead state deeds reached
      (∀ announcement entity,
          announcement.event.entity = some entity
          → Entity.cls entity = cls
          → announcement.event.factory = factory
          → (interceptor.dispatchWith services).outcome (announcement, state)
              = (.error .panicked, announcement, reached)
            ∧ ((interceptor.recorded.dispatchWith (interceptor.recorded.servicesTo depth)).outcome
                (announcement.map Recorded.of, state)).2.1.event.called = [])
      ∧ cls ∈ pending deeds
      ∧ (∀ under ∈ pending deeds,
          reached.cache.listeners.get? under.id = none
          ∧ reached.cache.triggers.get? under.id = none)
      ∧ reached.cache.created = state.cache.created + deeds.countP Deed.isCreation
      ∧ reached.cache.checks = state.cache.checks + deeds.countP Deed.isStart
      ∧ reached.cache.checks = instead.cache.checks + (pending deeds).length
      ∧ ∀ (later : Interceptor ε μ) (inputs : List (Input ε μ)) (cls' : EntityClass)
          (factory' : Option SessionFactory),
          ((later.find cls' factory').outcome (later.takeAll reached inputs)).1
          = ((later.find cls' factory').outcome (later.takeAll instead inputs)).1 := by
  intro services reached deeds instead
  have take := interceptor.take_servicesTo depth
  have tidy := reachable.tidy
  have course : interceptor.Course state deeds .panicked reached := by
    have whole := interceptor.course_findWith take cls factory state
    rwa [panics] at whole
  obtain ⟨checks, created⟩ := course.counts tidy
  have alike : instead.Alike reached := course.alike_instead (by decide) tidy
  refine ⟨?_, mem_pending_of_panicked take panics,
    fun under passed => course.absent_of_pending tidy rfl passed, created, checks, ?_, ?_⟩
  · rintro announcement entity carried rfl rfl
    have ends
        : (interceptor.findForWith services announcement.event.entity
            announcement.event.factory).outcome state
          = (.error .panicked, reached) := by
      rw [carried]
      exact Prod.ext panics rfl
    constructor
    · rw [outcome_dispatchWith, ends]
      rfl
    · refine interceptor.called_recorded_of_unheard depth announcement state (Or.inr ?_)
      rw [ends]
      intro listener found
      cases found
  · have redone := course.redone tidy ⟨.refl state, tidy.paired, fun _ held => held⟩
    exact checks.trans redone.checks.symm
  · intro later inputs cls' factory'
    exact (later.agrees_find cls' factory' _ _ (later.alike_takeAll alike inputs)).1.symm

end Panics

end Interceptor

namespace Scenario

/-- A search for the listener of orders panics. That of customers has been made, and nothing is
remembered of orders; three resolutions have begun.
-/
theorem panic_leaves_no_trace_market
    : ∃ reached,
        (market.findWith (market.servicesTo 2) orders none).outcome (.initial (.fixed 0 0) .empty)
          = (.error .panicked, reached)
        ∧ reached.cache.listeners.get? orders.id = none
        ∧ reached.cache.created = 1
        ∧ reached.cache.checks = 3 := by
  have panics
      : ((market.findWith (market.servicesTo 2) orders none).outcome
          (.initial (.fixed 0 0) .empty)).1
        = .error .panicked :=
    Ending.of_eq_panicked_iff.mp (by decide +kernel)
  have reachable : market.Reachable (.initial (.fixed 0 0) .empty) := .initial _ _
  obtain ⟨-, under, absent, created, checks, -⟩ :=
    market.panic_leaves_no_trace reachable 2 orders none panics
  refine ⟨_, ?_, (absent _ under).1, ?_, ?_⟩
  · rw [← panics]
  · rw [created]
    decide +kernel
  · rw [checks]
    decide +kernel

end Scenario

end Lifecycle
