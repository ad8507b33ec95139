import Lifecycle.Proofs.Publishing.Visits
import Lifecycle.Scenario.Session
import Mathlib.Data.List.Chain

/-! What publishing an event comes to. The subscribers of its kind are visited in their order up to
the first that stops; each finds the event as the one before it has left it. As long as no
subscriber replaces the event, a cancellation stays, whatever comes after it.
-/

namespace Lifecycle

variable {ε μ : Type}

-----------------------------------------------------------------------------------------
-- Subscribers that do not replace the event
-----------------------------------------------------------------------------------------

/-- An announcement is a later stage of another: the event is the same but for its entity, and it
stays cancelled.
-/
structure Announcement.Continues (earlier later : Announcement ε) : Prop where
  event : ∃ change, later.event = earlier.event.map change
  cancelled : earlier.cancelled = true → later.cancelled = true

namespace Announcement.Continues

theorem refl (announcement : Announcement ε) : announcement.Continues announcement :=
  ⟨⟨id, announcement.event.map_id.symm⟩, id⟩

theorem trans {earlier middle later : Announcement ε} (first : earlier.Continues middle)
    (second : middle.Continues later)
    : earlier.Continues later := by
  obtain ⟨change, changed⟩ := first.event
  obtain ⟨change', changed'⟩ := second.event
  refine ⟨⟨change' ∘ change, ?_⟩, second.cancelled ∘ first.cancelled⟩
  rw [changed', changed, Event.map_map]

theorem cancel (announcement : Announcement ε) : announcement.Continues announcement.cancel :=
  ⟨⟨id, announcement.event.map_id.symm⟩, fun _ => rfl⟩

end Announcement.Continues

/-- A subscriber may change the entity of an event and may cancel the event, but it does not put
another event in its place, however it ends.
-/
def Subscriber.Abides (subscriber : Subscriber ε μ) : Prop :=
  ∀ start : Announcement ε × State μ,
    start.1.Continues (subscriber.receive.outcome start).2.1

/-- An interceptor does not replace the events that it is shown. -/
theorem Interceptor.abides_subscriber [Entity ε μ] (interceptor : Interceptor ε μ)
    : interceptor.subscriber.Abides := by
  intro (announcement, state)
  show announcement.Continues
    ((interceptor.dispatchWith interceptor.services).outcome (announcement, state)).2.1
  cases carried : announcement.event.entity with
  | none =>
      rw [interceptor.outcome_dispatchWith_of_none interceptor.services carried]
      exact .refl announcement
  | some entity =>
      rw [interceptor.outcome_dispatchWith_of_entity interceptor.services carried]
      split
      · refine ⟨⟨_, rfl⟩, fun cancelled => ?_⟩
        simp [Announcement.finish, cancelled]
      · exact .refl announcement
      · exact .refl announcement

/-- Whoever abides leaves a later stage of what it is shown. -/
theorem Course.continues {kind : EventKind} {position : Nat} {subscribers : List (Subscriber ε μ)}
    {start : Announcement ε × State μ} {visits : List (Visit ε μ)}
    {ending : Except Stop Unit × Announcement ε × State μ}
    (course : Course kind position subscribers start visits ending)
    (abide : ∀ subscriber ∈ subscribers, subscriber.Abides)
    : start.1.Continues ending.2.1
      ∧ ∀ visit ∈ visits,
          start.1.Continues visit.before.1
          ∧ visit.before.1.Continues visit.after.1
          ∧ visit.after.1.Continues ending.2.1 := by
  induction course with
  | done => exact ⟨.refl _, by simp⟩
  | passed _ _ ih =>
      exact ih (fun subscriber member => abide subscriber (List.mem_cons_of_mem _ member))
  | @visited _ subscriber _ start _ _ _ _ _ ih =>
      have received := abide subscriber List.mem_cons_self start
      obtain ⟨ends, visits⟩ :=
        ih (fun subscriber member => abide subscriber (List.mem_cons_of_mem _ member))
      refine ⟨received.trans ends, fun visit member => ?_⟩
      rcases List.mem_cons.mp member with rfl | member
      · exact ⟨.refl _, received, ends⟩
      · obtain ⟨found, left, rest⟩ := visits visit member
        exact ⟨received.trans found, left, rest⟩
  | @stopped _ subscriber _ start _ _ _ =>
      have received := abide subscriber List.mem_cons_self start
      refine ⟨received, fun visit member => ?_⟩
      obtain rfl := List.mem_singleton.mp member
      exact ⟨.refl _, received, .refl _⟩

-----------------------------------------------------------------------------------------
-- Publishing
-----------------------------------------------------------------------------------------

namespace Registry

/-- A registry that holds an interceptor and nobody else publishes as the interceptor dispatches.
-/
theorem publish_subscriber [Entity ε μ] (interceptor : Interceptor ε μ)
    (start : Announcement ε × State μ)
    : (empty.register interceptor.subscriber).publish.outcome start
      = interceptor.dispatch.outcome start := by
  have supports (kind : EventKind) : EventKind.all.contains kind = true := by
    rcases kind with ⟨⟨⟩⟩ | ⟨⟨⟩⟩ | _ | _ | _ | _ <;> rfl
  have delivers
      : (empty.register interceptor.subscriber).publish.outcome start
        = (deliver start.1.event.kind [interceptor.subscriber]).outcome start := rfl
  rw [delivers, outcome_deliver_cons, Interceptor.subscriber, if_pos (supports _)]
  rcases interceptor.dispatch.outcome start with ⟨stop | answered, reached⟩ <;> rfl

/-- Publishing an event shows it to those of the registered subscribers who support its kind, once
each and in the order of registration, up to the first who stops; each finds the event and the state
as the one before it has left them, and the delivery ends as the last visit does. Writing the visits
down changes nothing else. As long as no subscriber replaces the event a cancelled one stays
cancelled, and that it is cancelled keeps nobody from being shown it. Whether a registry wants a kind
tells whether anybody is shown such an event, and an interceptor that is alone in a registry does
what it does by itself.
-/
theorem publish_visits [Entity ε μ] (subscribers : List (Subscriber ε μ))
    (abide : ∀ subscriber ∈ subscribers, subscriber.Abides) (start : Announcement ε × State μ)
    : let registry := subscribers.foldl register empty
      let kind := start.1.event.kind
      let published := registry.publish.outcome start
      let recorded := registry.recorded.publish.outcome (Guestbook.of start [])
      let visits := Guestbook.visits recorded.2
      let interested := subscribers.findIdxs (·.supports kind)
      (recorded.1 = published.1 ∧ Guestbook.shown recorded.2 = published.2)
      ∧ (∀ visit ∈ visits,
          ∃ subscriber,
            subscribers[visit.position]? = some subscriber
            ∧ subscriber.supports kind = true
            ∧ subscriber.receive.outcome visit.before = (visit.result, visit.after))
      ∧ (visits.map Visit.position <+: interested
        ∧ (published.1 = .ok () → visits.map Visit.position = interested))
      ∧ (∀ first ∈ visits.head?, first.before = start)
      ∧ visits.IsChain (fun visit next => visit.result = .ok () ∧ next.before = visit.after)
      ∧ published
        = (visits.getLast?.map (fun last => (last.result, last.after))).getD (.ok (), start)
      ∧ (∀ stop, published.1 = .error stop ↔ ∃ visit ∈ visits, visit.result = .error stop)
      ∧ start.1.Continues published.2.1
      ∧ (∀ visit ∈ visits,
          start.1.Continues visit.before.1
          ∧ visit.before.1.Continues visit.after.1
          ∧ visit.after.1.Continues published.2.1)
      ∧ (registry.wants kind = true ↔ visits ≠ [])
      ∧ ∀ interceptor : Interceptor ε μ,
          interceptor.subscriber.Abides
          ∧ (empty.register interceptor.subscriber).publish.outcome start
            = interceptor.dispatch.outcome start := by
  intro registry kind published recorded visits interested
  have held : registry.subscribers = subscribers := subscribers_foldl_register subscribers empty
  obtain ⟨shown, ending, course, publishes, records⟩ := registry.course_publish start
  rw [held] at course
  have published_eq : published = ending := publishes
  have recorded_eq : recorded = (ending.1, Guestbook.of ending.2 shown) := records
  have visits_eq : visits = shown := congrArg (fun outcome => Guestbook.visits outcome.2) recorded_eq
  obtain ⟨ends, continues⟩ := course.continues abide
  rw [published_eq, recorded_eq, visits_eq]
  refine ⟨⟨rfl, rfl⟩, ?_, ⟨course.positions, course.positions_of_ok⟩, course.start_eq,
    course.isChain, course.ending_eq, course.stops_iff, ends, continues, ?_,
    fun interceptor => ⟨interceptor.abides_subscriber, publish_subscriber interceptor start⟩⟩
  · intro visit member
    obtain ⟨index, subscriber, held, place, interested, visits⟩ := course.isTo visit member
    rw [Nat.add_zero] at place
    refine ⟨subscriber, place ▸ held, interested, ?_⟩
    rw [visits]
    rfl
  · rw [wants_iff, course.ne_nil_iff]
    simp only [Registry.interested, held, kind]

end Registry

namespace Scenario

/-- A probe notes the event and may cancel it, and leaves it in its place. -/
theorem Probe.abides_subscriber {ν : Type} (probe : Probe)
    : (probe.subscriber : Subscriber (ScriptedEntity ν) Memory).Abides := by
  intro start
  rcases probe with ⟨name, kinds, _ | _ | cause⟩
  · exact .refl start.1
  · exact .cancel start.1
  · exact .refl start.1

/-- Why customs lets nothing pass. -/
def barrier : Failure := .lock "the barrier is down"

/-- Those who are told of the loads of a harbour: one who only follows inserts, one who cancels, the
interceptor of the harbour, one who fails, and one behind it.
-/
def harbour : List (Subscriber (ScriptedEntity Unit) Memory) :=
  [(⟨"clerk", some ["PreInsert"], .ignore⟩ : Probe).subscriber,
    (⟨"pilot", none, .cancel⟩ : Probe).subscriber,
    (⟨⟨⟨0, "main"⟩, default⟩, fun _ => .done true, 1⟩
      : Interceptor (ScriptedEntity Unit) Memory).subscriber,
    (⟨"customs", none, .fail barrier⟩ : Probe).subscriber,
    (⟨"crane", none, .ignore⟩ : Probe).subscriber]

/-- The load of a crate is shown to the one who cancels, to the interceptor, and to the one who
fails, and is still cancelled after that.
-/
theorem publish_visits_harbour
    : let start : Announcement (ScriptedEntity Unit) × State Memory :=
        (.of (.preLoad
          ⟨some (.ofType ⟨⟨3, "depot::Crate"⟩, .fixed false, false⟩), ⟨"Crate", ⟨0, "main"⟩⟩⟩),
          .initial (.fixed 0 0) .empty)
      let registry := harbour.foldl Registry.register Registry.empty
      let visits :=
        Guestbook.visits (registry.recorded.publish.outcome (Guestbook.of start [])).2
      visits.map (fun visit => (visit.position, visit.result, visit.after.1.cancelled))
        = [(1, .ok (), true), (2, .ok (), true), (3, .error (.failed barrier), true)]
      ∧ (registry.publish.outcome start).1 = .error (.failed barrier)
      ∧ (registry.publish.outcome start).2.1.cancelled = true := by
  intro start registry visits
  have abide : ∀ subscriber ∈ harbour, subscriber.Abides := by
    simp [harbour, Probe.abides_subscriber, Interceptor.abides_subscriber]
  have course
      : visits.map (fun visit => (visit.position, visit.result, visit.after.1.cancelled))
        = [(1, .ok (), true), (2, .ok (), true), (3, .error (.failed barrier), true)] := by
    decide +kernel
  obtain ⟨-, -, -, -, -, -, stops, -, continues, -, -⟩ :=
    Registry.publish_visits harbour abide start
  -- the last visit fails, and what it leaves is still cancelled
  have last : (3, (.error (.failed barrier) : Except Stop Unit), true) ∈ visits.map
      (fun visit => (visit.position, visit.result, visit.after.1.cancelled)) := by
    simp [course]
  obtain ⟨visit, member, left⟩ := List.mem_map.mp last
  simp only [Prod.mk.injEq] at left
  exact ⟨course, (stops _).mpr ⟨visit, member, left.2.1⟩,
    (continues visit member).2.2.cancelled left.2.2⟩

end Scenario

end Lifecycle
