import Lifecycle.Proofs.Factories.Identity
import Mathlib.Data.List.Forall2

/-! Two engines that differ in how they name factories and persisters, and in whatever else no
interceptor looks at. Both are served in the same way, step by step: if one of them told the
interceptor anything more than the numbers of factories, a listener that was granted or refused once
would tell the two apart ever after.
-/

namespace Lifecycle

variable {ε μ : Type}

-----------------------------------------------------------------------------------------
-- Engines
-----------------------------------------------------------------------------------------

/-- Everything that an input leads to: its result, whether its event is cancelled and what is left
of its entity, what happened in its course, and the state in the end.
-/
structure Report (ε μ : Type) where
  result : Except Stop Answer
  cancelled : Bool
  entity : Option ε
  course : List (Occurrence ε)
  reached : State μ

/-- Puts inputs to an interceptor. Each is chosen by everything that came of those before it, and
at some time there are no more.
-/
abbrev Engine (ε μ : Type) := List (Report ε μ) → Option (Input ε μ)

/-- Puts the inputs of a list. -/
def Engine.ofList (inputs : List (Input ε μ)) : Engine ε μ := fun reports => inputs[reports.length]?

/-- The same operation, but for the names of factories. -/
inductive Operation.Alike : Operation μ → Operation μ → Prop
  | find (cls : Option EntityClass) {factory factory' : Option SessionFactory}
    (same : factory'.map SessionFactory.id = factory.map SessionFactory.id)
    : Alike (.find cls factory) (.find cls factory')
  | evict (key : ClassKey) : Alike (.evict key) (.evict key)
  | clear : Alike .clear .clear
  | setClock (clock : Clock) : Alike (.setClock clock) (.setClock clock)
  | elsewhere (readings : Readings) (memory : μ)
    : Alike (.elsewhere readings memory) (.elsewhere readings memory)

/-- Events that are alike, or operations that are. -/
inductive Input.Alike : Input ε μ → Input ε μ → Prop
  | event {announcement announcement' : Announcement ε} (alike : announcement.Alike announcement')
    : Alike (.event announcement) (.event announcement')
  | operation {operation operation' : Operation μ} (alike : operation.Alike operation')
    : Alike (.operation operation) (.operation operation')

/-- Engines that put inputs that are alike whenever the same came of those before. -/
def Engine.Alike (engine engine' : Engine ε μ) : Prop :=
  ∀ reports, Option.Rel Input.Alike (engine reports) (engine' reports)

/-- Lists of inputs that are alike one by one make engines that are alike. -/
theorem Engine.alike_ofList {inputs inputs' : List (Input ε μ)}
    (alike : List.Forall₂ Input.Alike inputs inputs')
    : (Engine.ofList inputs).Alike (Engine.ofList inputs') := by
  intro reports
  show Option.Rel Input.Alike inputs[reports.length]? inputs'[reports.length]?
  generalize reports.length = index
  induction alike generalizing index with
  | nil => exact .none
  | cons first rest ih =>
      cases index with
      | zero => exact .some first
      | succ index => exact ih index

-----------------------------------------------------------------------------------------
-- Steps and runs
-----------------------------------------------------------------------------------------

namespace Interceptor

variable [Entity ε μ]

/-- What an input leads to. Factories count by their numbers in what happens. -/
def report (interceptor : Interceptor ε μ) (state : State μ) (input : Input ε μ) : Report ε μ :=
  let course := (interceptor.inputChronicle state input).map Occurrence.unnamed
  match input with
  | .event announcement =>
      let (result, left, reached) := interceptor.dispatch.outcome (announcement, state)
      ⟨result.map (fun _ => .done), left.cancelled, left.event.entity, course, reached⟩
  | .operation operation =>
      let (result, reached) := (interceptor.perform operation).outcome state
      ⟨result, false, none, course, reached⟩

/-- What comes of the inputs of an engine, up to a number of them. -/
def serve (interceptor : Interceptor ε μ) (engine : Engine ε μ)
    : Nat → State μ → List (Report ε μ) → List (Report ε μ)
  | 0, _, reports => reports
  | steps + 1, state, reports =>
      match engine reports with
      | none => reports
      | some input =>
          let report := interceptor.report state input
          interceptor.serve engine steps report.reached (reports ++ [report])

/-- An event makes the interceptor look for the listener of its entity for the given factory, and
the rest is up to that listener.
-/
def ResolvesBy (interceptor : Interceptor ε μ) (event : Event ε) (factory : Option SessionFactory)
    : Prop :=
  ∀ cancelled state,
    interceptor.dispatch.outcome (⟨event, cancelled⟩, state)
    = resume () (fun listener => listener.deliver interceptor.services) ⟨event, cancelled⟩
        ((interceptor.findFor event.entity factory).outcome state)

variable (interceptor : Interceptor ε μ) (name : String)

theorem resolvesBy_factory (event : Event ε) : interceptor.ResolvesBy event event.factory :=
  fun cancelled => interceptor.outcome_dispatchWith interceptor.services ⟨event, cancelled⟩

/-- Operations that are alike are carried out in the same way. -/
theorem perform_alike {operation operation' : Operation μ} (alike : operation.Alike operation')
    : (interceptor.renamed name).perform operation' = interceptor.perform operation := by
  cases alike with
  | @find cls factory factory' same =>
      cases cls with
      | none => rfl
      | some cls =>
          have served : (interceptor.renamed name).services = interceptor.services :=
            interceptor.servicesTo_renamed name interceptor.nesting
          have finds
              : (interceptor.renamed name).find cls factory' = interceptor.find cls factory := by
            rw [find, find, served]
            exact interceptor.findWith_alike name interceptor.services cls same
          exact congrArg (Functor.map Answer.found) finds
  | evict | clear | setClock | elsewhere => rfl

/-- The same happens in the course of inputs that are alike, whatever the factories are called. -/
theorem inputChronicle_alike {input input' : Input ε μ} (alike : input.Alike input')
    (state : State μ)
    : ((interceptor.renamed name).inputChronicle state input').map Occurrence.unnamed
      = (interceptor.inputChronicle state input).map Occurrence.unnamed := by
  have served := interceptor.servicesTo_renamed name interceptor.nesting
  have within := interceptor.chroniclesTo_renamed name interceptor.nesting
  cases alike with
  | @event announcement announcement' alike =>
      show ((interceptor.renamed name).dispatchChronicle
        ((interceptor.renamed name).servicesTo interceptor.nesting)
        ((interceptor.renamed name).chroniclesTo interceptor.nesting) announcement' state).map _ = _
      rw [served, within]
      exact interceptor.dispatchChronicle_unnamed name _ _ alike state
  | operation alike =>
      cases alike with
      | @find cls factory factory' same =>
          cases cls with
          | none => rfl
          | some cls =>
              show ((interceptor.renamed name).findChronicle
                ((interceptor.renamed name).servicesTo interceptor.nesting)
                ((interceptor.renamed name).chroniclesTo interceptor.nesting) cls factory'
                state).map _ = _
              rw [served, within]
              exact interceptor.findChronicle_unnamed name _ _ cls same state
      | evict | clear | setClock | elsewhere => rfl

/-- Inputs that are alike lead to the same. -/
theorem report_alike {input input' : Input ε μ} (alike : input.Alike input') (state : State μ)
    : (interceptor.renamed name).report state input' = interceptor.report state input := by
  have course := interceptor.inputChronicle_alike name alike state
  unfold report
  rw [course]
  cases alike with
  | @event announcement announcement' alike =>
      have served : (interceptor.renamed name).services = interceptor.services :=
        interceptor.servicesTo_renamed name interceptor.nesting
      obtain ⟨result, left, reached⟩ :=
        interceptor.outcome_dispatchWith_alike name interceptor.services alike state
      simp only [dispatch, served, result, left.cancelled, left.event.entity, reached]
  | operation alike => simp only [interceptor.perform_alike name alike]

/-- Whatever else events say of factories and persisters, only the numbers of factories count. Two
engines put inputs to two interceptors of one datastore. They put events of one kind about one
entity whenever the same came of their inputs before, and name the same factories by number:
persisters and factories may be called otherwise, tracked entities may have other ids, and the
sessions that save them may be of other factories. Then the same comes of each of their inputs, in
its result and in its cancelling, in its entity and in the hooks that are called, in the cache and
in the counters. The save of a tracked entity asks for its listener for the factory of its
persister, that of a new one for the factory of its session, and a validation for none.
-/
theorem identity_decides {engine engine' : Engine ε μ} (alike : engine.Alike engine')
    (state : State μ) (steps : Nat)
    : (interceptor.renamed name).serve engine' steps state []
        = interceptor.serve engine steps state []
      ∧ (∀ entity session entry,
        interceptor.ResolvesBy (.saveOrUpdate ⟨entity, ⟨session, some entry⟩⟩)
          (some entry.persister.factory))
      ∧ (∀ entity session,
        interceptor.ResolvesBy (.saveOrUpdate ⟨entity, ⟨session, none⟩⟩) (some session))
      ∧ ∀ payload, interceptor.ResolvesBy (.validation payload) none := by
  have serves (reports : List (Report ε μ))
      : (interceptor.renamed name).serve engine' steps state reports
        = interceptor.serve engine steps state reports := by
    -- By induction on the steps that are left: both engines have seen the same reports.
    induction steps generalizing state reports with
    | zero => rfl
    | succ steps ih =>
        have puts := alike reports
        rw [serve, serve]
        generalize engine reports = input, engine' reports = input' at puts
        cases puts with
        | none => rfl
        | some alike =>
            dsimp only
            rw [interceptor.report_alike name alike]
            exact ih _ _
  exact ⟨serves [], fun _ _ _ => interceptor.resolvesBy_factory _,
    fun _ _ => interceptor.resolvesBy_factory _, fun _ => interceptor.resolvesBy_factory _⟩

end Interceptor

namespace Scenario

/-- A session of a factory saves a new order, or one that it tracks already. -/
def savingOrder (session : SessionFactory) (entry : Option Entry)
    : Announcement (ScriptedEntity Unit) :=
  .of (.saveOrUpdate
    ⟨some (.ofType ⟨⟨7, "shop::Order"⟩, .fixed false, false⟩), ⟨session, entry⟩⟩)

/-- The shop saves an order that it tracks, and a foreign session a new one. -/
def saves : List (Input (ScriptedEntity Unit) Memory) :=
  [.event (savingOrder shop.home (some ⟨⟨"Order", shop.home⟩, some "1"⟩)),
    .event (savingOrder ⟨1, "reporting"⟩ none)]

/-- The same by other names, and the tracked order is saved by a foreign session as well. -/
def renamedSaves : List (Input (ScriptedEntity Unit) Memory) :=
  [.event (savingOrder ⟨1, "audit"⟩ (some ⟨⟨"Purchase", ⟨0, "branch"⟩⟩, none⟩)),
    .event (savingOrder ⟨1, "audit"⟩ none)]

/-- Both times the tracked order opens the listener to the new one, which is stamped. -/
theorem identity_decides_shop
    : (Engine.ofList saves).Alike (Engine.ofList renamedSaves)
      ∧ ((shop.renamed "branch").serve (.ofList renamedSaves) 2
            (.initial (.ticking 0 100 5) .empty) []).map
          (fun report => report.entity.map ScriptedEntity.recorded)
        = [some ⟨none, none⟩, some ⟨some 100, some 100⟩] := by
  have same : Persister.Alike ⟨"Order", shop.home⟩ ⟨"Purchase", ⟨0, "branch"⟩⟩ := rfl
  have tracked
      : SaveOrigin.Alike ⟨shop.home, some ⟨⟨"Order", shop.home⟩, some "1"⟩⟩
          ⟨⟨1, "audit"⟩, some ⟨⟨"Purchase", ⟨0, "branch"⟩⟩, none⟩⟩ :=
    .tracked same _ _ _ _
  have new : SaveOrigin.Alike ⟨⟨1, "reporting"⟩, none⟩ ⟨⟨1, "audit"⟩, none⟩ := .untracked rfl
  have alike : (Engine.ofList saves).Alike (Engine.ofList renamedSaves) :=
    Engine.alike_ofList
      (.cons (.event ⟨.saveOrUpdate _ tracked, rfl⟩)
        (.cons (.event ⟨.saveOrUpdate _ new, rfl⟩) .nil))
  obtain ⟨served, -⟩ :=
    shop.identity_decides "branch" alike (.initial (.ticking 0 100 5) .empty) 2
  refine ⟨alike, ?_⟩
  rw [served]
  rfl

end Scenario

end Lifecycle
