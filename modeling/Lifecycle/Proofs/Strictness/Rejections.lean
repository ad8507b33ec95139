import Lifecycle.Proofs.Strictness.Unawareness

/-! Rejected writes, as a lenient listener and a strict one deal with them. Both do the same with
the entity and the clocks; the one cancels the write and the other fails, and there is no other
difference.
-/

namespace Lifecycle

variable {ε μ : Type} [Entity ε μ]

namespace Listener

/-- The errors for which a write is rejected, if it is: those that the entity reports of itself as
the hook and the stamps have left it, unless it is vetoed or does not want to be judged.
-/
def rejection? (listener : Listener) (services : Services ε μ) (event : Event ε)
    (start : ε × State μ) : Option (List String) :=
  match ((event.callback start.1).run services).outcome start with
  | (.ok (.ok decision), reached) =>
      let left := ((listener.after event decision).outcome reached).2.1
      let errors := Entity.validationErrors left
      if event.kind.isJudged && !decision.isVeto && Entity.autoValidate left && !errors.isEmpty then
        some errors
      else none
  | _ => none

/-- An entity is rejected for the errors that it reports when the listener is done with it. -/
theorem rejection?_cases {listener : Listener} {services : Services ε μ} {event : Event ε}
    {start : ε × State μ} {errors : List String}
    (rejected : listener.rejection? services event start = some errors)
    : let left := ((listener.attend services event).outcome start).2.1
      event.kind.isJudged = true
      ∧ Entity.autoValidate left = true
      ∧ Entity.validationErrors left = errors
      ∧ errors ≠ [] := by
  unfold rejection? at rejected
  rcases ends : ((event.callback start.1).run services).outcome start
    with ⟨stop | cause | decision, reached⟩
  all_goals simp only [ends] at rejected
  · cases rejected
  · cases rejected
  · rw [listener.attend_of_decision services event ends]
    split at rejected
    · rename_i judged
      simp only [Bool.and_eq_true, Bool.not_eq_true', List.isEmpty_eq_false_iff] at judged
      obtain ⟨⟨⟨judges, -⟩, validates⟩, reports⟩ := judged
      cases rejected
      exact ⟨judges, validates, rfl, reports⟩
    · cases rejected

variable {listener : Listener} {config : Config} {veil : μ → μ}

theorem outcome_stamp_harden (change : Instant → AuditStamps → AuditStamps) (entity : ε)
    (state : State μ)
    : let stamped := (listener.stamp change : Call (ε × State μ) Unit).outcome (entity, state)
      ((listener.harden config).stamp change : Call (ε × State μ) Unit).outcome
          (entity, state.harden config veil)
        = (stamped.1, stamped.2.1, stamped.2.2.harden config veil) := by
  simp only [stamp, Call.outcome_modify]
  cases Entity.stamps entity <;> rfl

/-- After the hook both listeners do the same with the entity and the clocks. -/
theorem after_harden (listener : Listener) (config : Config) (veil : μ → μ) (event : Event ε)
    (decision : Decision) (entity : ε) (state : State μ)
    : let left := ((listener.after event decision).outcome (entity, state)).2
      (((listener.harden config).after event decision).outcome
          (entity, state.harden config veil)).2
        = (left.1, left.2.harden config veil) := by
  cases stamping : event.isStamping decision with
  | false =>
      rw [after_of_not_isStamping _ _ stamping, after_of_not_isStamping _ _ stamping]
  | true =>
      obtain ⟨change, rule, stamps⟩ := listener.after_of_isStamping (entity, state) stamping
      obtain ⟨change', rule', stamps'⟩ :=
        (listener.harden config).after_of_isStamping (entity, state.harden config veil) stamping
      cases rule.symm.trans rule'
      rw [stamps, stamps', outcome_stamp_harden]

/-- An entity that wants to be judged and reports errors is rejected, by a lenient listener in
silence and by a strict one with a failure.
-/
theorem judgement_harden (config : Config) (relaxed : listener.failOnError = false) (entity : ε)
    : let errors := Entity.validationErrors entity
      let rejected := Entity.autoValidate entity && !errors.isEmpty
      listener.judgement entity = .ok rejected
      ∧ (listener.harden config).judgement entity
        = if rejected && config.covers listener.cls then
            .error (.validation listener.cls.name errors)
          else .ok rejected := by
  simp only [judgement, relaxed]
  cases Entity.autoValidate entity with
  | false => exact ⟨rfl, rfl⟩
  | true =>
      cases Entity.validationErrors entity with
      | nil => exact ⟨rfl, rfl⟩
      | cons first others =>
          cases covers : config.covers listener.cls <;> simp [harden, covers]

/-- A lenient listener skips a rejected write, and a strict one fails; apart from that they attend
to an entity alike.
-/
theorem attend_harden {interceptor : Interceptor ε μ} {services services' : Services ε μ}
    {within within' : Chronicles ε μ} {made : Deeds ε μ}
    (harden : services.Harden interceptor config veil services' within within')
    (take : services.Take interceptor made) (unaware : interceptor.Unaware config veil)
    (relaxed : listener.failOnError = false) (event : Event ε) (entity : ε) {state : State μ}
    (tidy : interceptor.Tidy state)
    : let attended := (listener.attend services event).outcome (entity, state)
      let attended' :=
        ((listener.harden config).attend services' event).outcome
          (entity, state.harden config veil)
      attended'.2 = (attended.2.1, attended.2.2.harden config veil)
      ∧ match listener.rejection? services event (entity, state) with
        | none => attended'.1 = attended.1
        | some errors =>
            attended.1 = .ok true
            ∧ attended'.1
              = if config.covers listener.cls then
                  .error (.failed (.validation listener.cls.name errors))
                else .ok true := by
  have hooks := (harden.run take (unaware.callback event entity) entity state tidy).1.eq
  unfold rejection?
  dsimp only
  rcases ends : ((event.callback entity).run services).outcome (entity, state)
    with ⟨stop | cause | decision, hooked, reached⟩
  all_goals rw [ends] at hooks
  · rw [listener.attend_of_stop services event ends,
      (listener.harden config).attend_of_stop services' event hooks]
    exact ⟨rfl, rfl⟩
  · rw [listener.attend_of_error services event ends,
      (listener.harden config).attend_of_error services' event hooks]
    exact ⟨rfl, rfl⟩
  · rw [listener.attend_of_decision services event ends,
      (listener.harden config).attend_of_decision services' event hooks]
    have left := listener.after_harden config veil event decision hooked reached
    refine ⟨left, ?_⟩
    dsimp only at left ⊢
    rw [Listener.after_eq, Listener.after_eq, left]
    generalize ((listener.after event decision).outcome (hooked, reached)).2 = last
    cases judged : event.kind.isJudged && !decision.isVeto with
    | false => exact rfl
    | true =>
        obtain ⟨lenient, strict⟩ := listener.judgement_harden config relaxed last.1
        rw [lenient, strict, Bool.true_and]
        cases Entity.autoValidate last.1 && !(Entity.validationErrors last.1).isEmpty with
        | false => exact rfl
        | true =>
            refine ⟨rfl, ?_⟩
            cases config.covers listener.cls <;> rfl

end Listener

end Lifecycle
