import Lifecycle.Proofs.Chronicle.Attendance
import Lifecycle.Scenario.ScriptedEntity

/-! Inserts and updates, from the hook to the answer. A listener asks the hook first, stamps what the
hook has made of the entity, and judges what the stamps have made of that. A hook that does not let
the write go on has the last word on the entity.
-/

namespace Lifecycle

variable {ε μ : Type}

/-- The same entities, which judge themselves in another way. -/
abbrev Entity.judgedBy (entities : Entity ε μ) (validates : ε → Bool) (reports : ε → List String)
    : Entity ε μ :=
  { entities with
    autoValidate := validates
    validationErrors := reports }

variable [Entity ε μ]

namespace Listener

/-- What a write that goes on leaves of an entity and of the state: an insert stamps the time of
creation if there is none, and inserts and updates stamp the time of the last update, both with one
reading of the clock. An entity without stamps stays as it is.
-/
def written (clock : Clock) (write : Write) (hooked : ε) (reached : State μ) : ε × State μ :=
  match Entity.stamps hooked with
  | none => (hooked, reached)
  | some old =>
      let now := clock.reading (reached.readings.count clock)
      (Entity.withStamps hooked
          ⟨if write = .insert then some (old.created.getD now) else old.created, some now⟩,
        { reached with readings := (reached.readings.next clock).2 })

variable (listener : Listener) (services : Services ε μ)

/-- A listener reacts to a write by attending to the entity that the event carries. -/
theorem outcome_react_pre (write : Write) (entity : ε) (persister : Persister) (cancelled : Bool)
    (state : State μ)
    : let holding (current : ε) : Announcement ε :=
        ⟨.pre write ⟨some current, persister⟩, cancelled⟩
      let attended :=
        (listener.attend services (.pre write ⟨some entity, persister⟩)).outcome (entity, state)
      (listener.react services).outcome (holding entity, state)
        = (attended.1, holding attended.2.1, attended.2.2) := by
  intro holding attended
  rw [listener.outcome_react]
  rfl

/-- The stamp of an insert or an update is what the write leaves. -/
theorem outcome_stamp_eq_written {write : Write}
    {change : Instant → AuditStamps → AuditStamps} (rule : write.stamping? = some change)
    (hooked : ε) (reached : State μ)
    : (listener.stamp change).outcome (hooked, reached)
      = (.ok (), written listener.clock write hooked reached) := by
  rcases shown : Entity.stamps hooked with _ | old
  · rw [listener.outcome_stamp_of_none change shown, written, shown]
  · rw [listener.outcome_stamp_of_stamps change shown, written, shown]
    cases write with
    | insert | update =>
        cases rule
        rfl
    | delete => cases rule

/-- A write that the hook lets go on is answered by the judgement on what it leaves. -/
theorem after_proceed {write : Write} (stamping : write ≠ .delete)
    (payload : Payload ε Persister) (hooked : ε) (reached : State μ)
    : (listener.after (.pre write payload) .proceed).outcome (hooked, reached)
      = ((listener.judgement (written listener.clock write hooked reached).1).mapError .failed,
          written listener.clock write hooked reached) := by
  obtain ⟨change, rule⟩ : ∃ change, write.stamping? = some change := by
    cases write with
    | insert | update => exact ⟨_, rfl⟩
    | delete => exact absurd rfl stamping
  rw [after, rule]
  show ((do listener.stamp change; listener.judge : Call (ε × State μ) Bool).outcome
    (hooked, reached)) = _
  rw [Call.outcome_bind, listener.outcome_stamp_eq_written rule, Call.andThen,
    listener.outcome_judge, Call.outcome_answer]

/-- What a listener answers if the hook does not let the write go on. -/
def refusal? : Except Stop (Except Failure Decision) → Option (Except Stop Bool)
  | .error stop => some (.error stop)
  | .ok (.error cause) => some (.error (.failed cause))
  | .ok (.ok .veto) => some (.ok true)
  | .ok (.ok .proceed) => none

/-- Such a write ends with the hook. -/
theorem outcome_react_of_refusal {write : Write} {entity hooked : ε} {state reached : State μ}
    {answer : Except Stop (Except Failure Decision)} {result : Except Stop Bool}
    (answers
      : ((Entity.before entity write).run services).outcome (entity, state)
        = (answer, hooked, reached))
    (refused : refusal? answer = some result) (persister : Persister) (cancelled : Bool)
    : (listener.react services).outcome
          (⟨.pre write ⟨some entity, persister⟩, cancelled⟩, state)
      = (result, ⟨.pre write ⟨some hooked, persister⟩, cancelled⟩, reached) := by
  let event : Event ε := .pre write ⟨some entity, persister⟩
  have called
      : ((event.callback entity).run services).outcome (entity, state)
        = (answer, hooked, reached) :=
    answers
  have attended
      : (listener.attend services event).outcome (entity, state) = (result, hooked, reached) := by
    rcases answer with stop | cause | (_ | _)
    · cases refused
      exact listener.attend_of_stop services event called
    · cases refused
      exact listener.attend_of_error services event called
    · cases refused
    · cases refused
      rw [listener.attend_of_decision services event called]
      rfl
  rw [listener.outcome_react_pre, attended]

end Listener

/-- What a listener that is made for a class makes of an entity. -/
theorem Listener.judgement_make (serial : Nat) (cls : EntityClass) (config : Config)
    (clock : Clock) (entity : ε)
    : let errors := Entity.validationErrors entity
      let passes := Entity.autoValidate entity = false ∨ errors = []
      let fatal :=
        config.failOnError = true ∨ ∃ package ∈ config.packages, cls.isBelow package = true
      let judgement := (make serial cls config clock).judgement entity
      (passes → judgement = .ok false)
      ∧ (¬ passes → fatal → judgement = .error (.validation cls.name errors))
      ∧ (¬ passes → ¬ fatal → judgement = .ok true) := by
  have covers
      : config.covers cls = true
        ↔ config.failOnError = true ∨ ∃ package ∈ config.packages, cls.isBelow package = true := by
    rw [Config.covers, Bool.or_eq_true, List.any_eq_true]
  have passing
      : (!Entity.autoValidate entity || (Entity.validationErrors entity).isEmpty) = true
        ↔ Entity.autoValidate entity = false ∨ Entity.validationErrors entity = [] := by
    rw [Bool.or_eq_true, Bool.not_eq_true', List.isEmpty_iff]
  intro errors passes fatal judgement
  refine ⟨?_, ?_, ?_⟩
  · intro valid
    exact if_pos (passing.mpr valid)
  · intro invalid strict
    exact (if_neg (mt passing.mp invalid)).trans (if_pos (covers.mpr strict))
  · intro invalid lenient
    exact (if_neg (mt passing.mp invalid)).trans (if_neg (mt covers.mp lenient))

/-- How the listener of a class answers an insert or an update of any entity, whatever its hook does.
If the hook gives no answer, or reports a failure, or vetoes, that is how the listener answers, the
entity and the state are as the hook has left them, and they would be so if the entity judged itself
in any other way. If the hook lets the write go on the entity is stamped with one reading of the
clock, if it has stamps then, and nothing else is changed; it is judged as it is then, and its errors
are fatal if the configuration says so for all classes or for a package of the class.
-/
theorem Listener.react_write (serial : Nat) (cls : EntityClass) (config : Config) (clock : Clock)
    (services : Services ε μ) {write : Write} (stamping : write ≠ .delete) (entity : ε)
    (persister : Persister) (cancelled : Bool) (state : State μ)
    : let listener := make serial cls config clock
      let holding (current : ε) : Announcement ε :=
        ⟨.pre write ⟨some current, persister⟩, cancelled⟩
      let reacted := (listener.react services).outcome (holding entity, state)
      let unjudged := ∀ (validates : ε → Bool) (reports : ε → List String),
        let _ := Entity.judgedBy (ε := ε) (μ := μ) inferInstance validates reports
        (listener.react services).outcome (holding entity, state) = reacted
      match ((Entity.before entity write).run services).outcome (entity, state) with
      | (.error stop, hooked, reached) =>
          reacted = (.error stop, holding hooked, reached) ∧ unjudged
      | (.ok (.error cause), hooked, reached) =>
          reacted = (.error (.failed cause), holding hooked, reached) ∧ unjudged
      | (.ok (.ok .veto), hooked, reached) =>
          reacted = (.ok true, holding hooked, reached) ∧ unjudged
      | (.ok (.ok .proceed), hooked, reached) =>
          let left := (written clock write hooked reached).1
          let errors := Entity.validationErrors left
          let passes := Entity.autoValidate left = false ∨ errors = []
          let fatal :=
            config.failOnError = true ∨ ∃ package ∈ config.packages, cls.isBelow package = true
          reacted.2 = (holding left, (written clock write hooked reached).2)
          ∧ (passes → reacted.1 = .ok false)
          ∧ (¬ passes → fatal → reacted.1 = .error (.failed (.validation cls.name errors)))
          ∧ (¬ passes → ¬ fatal → reacted.1 = .ok true) := by
  intro listener holding reacted unjudged
  rcases answers : ((Entity.before entity write).run services).outcome (entity, state)
    with ⟨answer, hooked, reached⟩
  have refuses {result : Except Stop Bool} (refused : refusal? answer = some result)
      : reacted = (result, holding hooked, reached) ∧ unjudged := by
    have ends := listener.outcome_react_of_refusal services answers refused persister cancelled
    refine ⟨ends, ?_⟩
    -- The hook is the same for entities that judge themselves in another way.
    intro validates reports others
    exact (@outcome_react_of_refusal ε μ others listener services write entity hooked state reached
      answer result answers refused persister cancelled).trans ends.symm
  rcases answer with stop | cause | (_ | _)
  · exact refuses rfl
  · exact refuses rfl
  · have goesOn
        : reacted
          = ((listener.judgement (written clock write hooked reached).1).mapError .failed,
              holding (written clock write hooked reached).1,
              (written clock write hooked reached).2) := by
      have attended
          : (listener.attend services (.pre write ⟨some entity, persister⟩)).outcome (entity, state)
            = (listener.after (.pre write ⟨some entity, persister⟩) .proceed).outcome
                (hooked, reached) :=
        listener.attend_of_decision services _ answers
      rw [listener.after_proceed stamping] at attended
      exact (listener.outcome_react_pre services write entity persister cancelled state).trans
        (congrArg (fun ended => (ended.1, holding ended.2.1, ended.2.2)) attended)
    obtain ⟨passing, fatal, skipped⟩ :=
      judgement_make serial cls config clock (written clock write hooked reached).1
    rw [goesOn]
    refine ⟨rfl, ?_, ?_, ?_⟩
    · intro passes
      exact congrArg (Except.mapError Stop.failed) (passing passes)
    · intro invalid strict
      exact congrArg (Except.mapError Stop.failed) (fatal invalid strict)
    · intro invalid lenient
      exact congrArg (Except.mapError Stop.failed) (skipped invalid lenient)
  · exact refuses rfl

namespace Scenario

/-- An order whose hook before an insert backdates it and finds a fault with it. -/
def backdated : ScriptedEntity Unit :=
  let type : EntityType := ⟨⟨7, "shop::Order"⟩, .fixed false, false⟩
  { ScriptedEntity.ofType type with
    hooks := fun hook =>
      if hook = .before .insert then [.edit (.created (some 40)), .edit (.errors ["no title"])]
      else [] }

/-- The insert keeps the date that the hook has set, and the fault that it has found is fatal for
orders, which lie below the package.
-/
theorem react_write_backdated
    : Write.insert ≠ .delete
      ∧ let listener :=
          Listener.make 0 ⟨⟨7, "shop::Order"⟩, false⟩ ⟨false, ["shop"]⟩ (.ticking 0 100 5)
        let reacted :=
          (listener.react (ε := ScriptedEntity Unit) .none).outcome
            (⟨.pre .insert ⟨some backdated, ⟨"Order", ⟨0, "main"⟩⟩⟩, false⟩,
              .initial (.ticking 0 100 5) .empty)
        reacted.1 = .error (.failed (.validation "shop::Order" ["no title"]))
        ∧ reacted.2.1.event.entity.map ScriptedEntity.recorded = some ⟨some 40, some 100⟩ := by
  have stamping : Write.insert ≠ .delete := by decide
  obtain ⟨left, -, fatal, -⟩ :=
    Listener.react_write 0 ⟨⟨7, "shop::Order"⟩, false⟩ ⟨false, ["shop"]⟩ (.ticking 0 100 5) .none
      stamping backdated ⟨"Order", ⟨0, "main"⟩⟩ false (State.initial (.ticking 0 100 5) .empty)
  refine ⟨stamping, ?_, ?_⟩
  · apply fatal
    · rintro (unjudged | faultless)
      · cases unjudged
      · cases faultless
    · exact .inr ⟨"shop", List.mem_singleton_self _, by decide +kernel⟩
  · rw [left]
    rfl

end Scenario

end Lifecycle
