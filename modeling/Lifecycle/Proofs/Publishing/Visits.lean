import Lifecycle.Proofs.Chronicle.Attendance
import Lifecycle.Registry
import Mathlib.Data.List.Chain

/-! Who is shown a published event. Every subscriber can be made to write down each event that it
receives, what it makes of it and how it ends; it still receives events as it did. What a registry
of such subscribers writes down is the course of a delivery: one visit after another, each finding
what the one before it has left.
-/

namespace Lifecycle

variable {ε μ : Type}

-----------------------------------------------------------------------------------------
-- Registries of subscribers that write down what they receive
-----------------------------------------------------------------------------------------

/-- An event is shown to the subscriber at a position: what the subscriber is given, how it ends,
and what it leaves.
-/
structure Visit (ε μ : Type) where
  position : Nat
  before : Announcement ε × State μ
  result : Except Stop Unit
  after : Announcement ε × State μ

/-- An announcement, and a state in which visits are kept beside the memory. -/
abbrev Guestbook (ε μ : Type) := Announcement ε × State (μ × List (Visit ε μ))

namespace Guestbook

/-- What is given to subscribers, without the visits. -/
def shown (book : Guestbook ε μ) : Announcement ε × State μ :=
  (book.1, { book.2 with memory := book.2.memory.1 })

def visits (book : Guestbook ε μ) : List (Visit ε μ) := book.2.memory.2

/-- What is given to subscribers, with visits beside it. -/
def of (start : Announcement ε × State μ) (visits : List (Visit ε μ)) : Guestbook ε μ :=
  (start.1, { start.2 with memory := (start.2.memory, visits) })

@[simp] theorem visits_of (start : Announcement ε × State μ) (visits : List (Visit ε μ))
    : (of start visits).visits = visits := rfl

end Guestbook

/-- The visit of an event to a subscriber at a position. -/
def Subscriber.visit (subscriber : Subscriber ε μ) (position : Nat)
    (start : Announcement ε × State μ) : Visit ε μ :=
  let (result, reached) := subscriber.receive.outcome start
  ⟨position, start, result, reached⟩

/-- The subscriber at a position, which also writes down every visit, however it ends. -/
def Subscriber.recorded (position : Nat) (subscriber : Subscriber ε μ)
    : Subscriber ε (μ × List (Visit ε μ)) where
  name := subscriber.name
  supports := subscriber.supports
  receive := Call.ofOutcome (fun (book : Guestbook ε μ) =>
    let visit := subscriber.visit position book.shown
    (visit.result, Guestbook.of visit.after (book.visits ++ [visit])))

namespace Registry

/-- The registry of the same subscribers, each of which writes down its visits. -/
def recorded (registry : Registry ε μ) : Registry ε (μ × List (Visit ε μ)) :=
  ⟨registry.subscribers.mapIdx Subscriber.recorded⟩

/-- The positions of the subscribers to a kind, in the order of registration. -/
def interested (registry : Registry ε μ) (kind : EventKind) : List Nat :=
  registry.subscribers.findIdxs (·.supports kind)

@[simp] theorem subscribers_register (registry : Registry ε μ) (subscriber : Subscriber ε μ)
    : (registry.register subscriber).subscribers = registry.subscribers ++ [subscriber] := rfl

/-- Subscribers who are registered one after another are held in that order, after those who were
there before.
-/
theorem subscribers_foldl_register (subscribers : List (Subscriber ε μ))
    (registry : Registry ε μ)
    : (subscribers.foldl register registry).subscribers = registry.subscribers ++ subscribers := by
  induction subscribers generalizing registry with
  | nil => simp
  | cons subscriber rest ih => simp [ih]

/-- A registry wants the events of a kind if a subscriber is interested in it. -/
theorem wants_iff (registry : Registry ε μ) (kind : EventKind)
    : registry.wants kind = true ↔ registry.interested kind ≠ [] := by
  simp [wants, interested, List.findIdxs_eq_nil_iff]

end Registry

-----------------------------------------------------------------------------------------
-- The course of a delivery
-----------------------------------------------------------------------------------------

/-- A delivery of an event of a kind to the subscribers from a position on: the visits that it
consists of, and how it ends. It goes on after a visit only if that has not stopped.
-/
inductive Course (kind : EventKind)
    : Nat → List (Subscriber ε μ) → Announcement ε × State μ → List (Visit ε μ)
      → Except Stop Unit × Announcement ε × State μ → Prop where
  | done {position : Nat} {start : Announcement ε × State μ}
      : Course kind position [] start [] (.ok (), start)
  | passed {position : Nat} {subscriber : Subscriber ε μ} {rest : List (Subscriber ε μ)}
      {start : Announcement ε × State μ} {visits : List (Visit ε μ)}
      {ending : Except Stop Unit × Announcement ε × State μ}
      (uninterested : subscriber.supports kind = false)
      (course : Course kind (position + 1) rest start visits ending)
      : Course kind position (subscriber :: rest) start visits ending
  | visited {position : Nat} {subscriber : Subscriber ε μ} {rest : List (Subscriber ε μ)}
      {start : Announcement ε × State μ} {visits : List (Visit ε μ)}
      {ending : Except Stop Unit × Announcement ε × State μ}
      (interested : subscriber.supports kind = true)
      (goesOn : (subscriber.visit position start).result = .ok ())
      (course
        : Course kind (position + 1) rest (subscriber.visit position start).after visits ending)
      : Course kind position (subscriber :: rest) start
          (subscriber.visit position start :: visits) ending
  | stopped {position : Nat} {subscriber : Subscriber ε μ} {rest : List (Subscriber ε μ)}
      {start : Announcement ε × State μ} {stop : Stop}
      (interested : subscriber.supports kind = true)
      (stops : (subscriber.visit position start).result = .error stop)
      : Course kind position (subscriber :: rest) start [subscriber.visit position start]
          (.error stop, (subscriber.visit position start).after)

namespace Registry

/-- A subscriber who writes down its visits is visited as it would be, and the visit is added to
those written down before.
-/
theorem outcome_recorded (subscriber : Subscriber ε μ) (position : Nat) (book : Guestbook ε μ)
    : (subscriber.recorded position).receive.outcome book
      = let visit := subscriber.visit position book.shown
        (visit.result, Guestbook.of visit.after (book.visits ++ [visit])) := rfl

theorem outcome_deliver_cons (kind : EventKind) (subscriber : Subscriber ε μ)
    (rest : List (Subscriber ε μ)) (start : Announcement ε × State μ)
    : (deliver kind (subscriber :: rest)).outcome start
      = if subscriber.supports kind then
          Call.andThen (fun _ => deliver kind rest) (subscriber.receive.outcome start)
        else (deliver kind rest).outcome start := by
  rw [deliver]
  split
  · exact Call.outcome_bind _ _ _
  · rfl

/-- A delivery comes to the end of its course. -/
theorem outcome_deliver {kind : EventKind} {position : Nat} {subscribers : List (Subscriber ε μ)}
    {start : Announcement ε × State μ} {visits : List (Visit ε μ)}
    {ending : Except Stop Unit × Announcement ε × State μ}
    (course : Course kind position subscribers start visits ending)
    : (deliver kind subscribers).outcome start = ending := by
  induction course with
  | done => rfl
  | passed uninterested _ ih => simp [outcome_deliver_cons, uninterested, ih]
  | @visited position subscriber rest start visits ending interested goesOn course ih =>
      have received
          : subscriber.receive.outcome start
            = (.ok (), (subscriber.visit position start).after) :=
        Prod.ext goesOn rfl
      simp [outcome_deliver_cons, interested, received, Call.andThen, ih]
  | @stopped position subscriber rest start stop interested stops =>
      have received
          : subscriber.receive.outcome start
            = (.error stop, (subscriber.visit position start).after) :=
        Prod.ext stops rfl
      simp [outcome_deliver_cons, interested, received, Call.andThen]

/-- A delivery to subscribers who write down their visits takes a course, and adds the visits of
that course to those written down before.
-/
theorem course_deliver (kind : EventKind) (subscribers : List (Subscriber ε μ)) (position : Nat)
    (book : Guestbook ε μ)
    : ∃ visits ending,
        Course kind position subscribers book.shown visits ending
        ∧ (deliver kind
            (subscribers.mapIdx (fun index => Subscriber.recorded (index + position)))).outcome book
          = (ending.1, Guestbook.of ending.2 (book.visits ++ visits)) := by
  induction subscribers generalizing position book with
  | nil =>
      refine ⟨[], (.ok (), book.shown), .done, ?_⟩
      simp [deliver, Guestbook.shown, Guestbook.visits, Guestbook.of]
  | cons subscriber rest ih =>
      have later (index : Nat) : index + 1 + position = index + (position + 1) := by omega
      simp only [List.mapIdx_cons, outcome_deliver_cons, Nat.zero_add, later, outcome_recorded]
      cases interest : subscriber.supports kind with
      | false =>
          obtain ⟨visits, ending, course, delivers⟩ := ih (position + 1) book
          exact ⟨visits, ending, .passed interest course, by simpa [Subscriber.recorded, interest]⟩
      | true =>
          cases ends : (subscriber.visit position book.shown).result with
          | error stop =>
              exact ⟨_, _, .stopped interest ends,
                by simp [Subscriber.recorded, interest, Call.andThen]⟩
          | ok =>
              obtain ⟨visits, ending, course, delivers⟩ :=
                ih (position + 1)
                  (Guestbook.of (subscriber.visit position book.shown).after
                    (book.visits ++ [subscriber.visit position book.shown]))
              refine ⟨_, ending, .visited interest ends course, ?_⟩
              simpa [Subscriber.recorded, interest, ends, Call.andThen] using delivers

/-- What subscribers who write down their visits make of an event, and what they have written down
in the end.
-/
theorem course_publish (registry : Registry ε μ) (start : Announcement ε × State μ)
    : ∃ visits ending,
        Course start.1.event.kind 0 registry.subscribers start visits ending
        ∧ registry.publish.outcome start = ending
        ∧ registry.recorded.publish.outcome (Guestbook.of start [])
          = (ending.1, Guestbook.of ending.2 visits) := by
  obtain ⟨visits, ending, course, delivers⟩ :=
    course_deliver start.1.event.kind registry.subscribers 0 (Guestbook.of start [])
  exact ⟨visits, ending, course, outcome_deliver course, delivers⟩

end Registry

/-- A visit is to a subscriber who supports the kind, and is what that subscriber makes of what it is
given. The positions of the subscribers are counted from the given one on.
-/
def Visit.IsTo (kind : EventKind) (position : Nat) (subscribers : List (Subscriber ε μ))
    (visit : Visit ε μ) : Prop :=
  ∃ index subscriber,
    subscribers[index]? = some subscriber
    ∧ visit.position = index + position
    ∧ subscriber.supports kind = true
    ∧ visit = subscriber.visit visit.position visit.before

namespace Visit.IsTo

variable {kind : EventKind} {position : Nat} {rest : List (Subscriber ε μ)}

theorem head {subscriber : Subscriber ε μ} {start : Announcement ε × State μ}
    (interested : subscriber.supports kind = true)
    : (subscriber.visit position start).IsTo kind position (subscriber :: rest) :=
  ⟨0, subscriber, rfl, (Nat.zero_add position).symm, interested, rfl⟩

theorem cons {visit : Visit ε μ} (isTo : visit.IsTo kind (position + 1) rest)
    (subscriber : Subscriber ε μ)
    : visit.IsTo kind position (subscriber :: rest) := by
  obtain ⟨index, visited, held, place, visits⟩ := isTo
  exact ⟨index + 1, visited, held, by omega, visits⟩

end Visit.IsTo

namespace Course

variable {kind : EventKind} {position : Nat} {subscribers : List (Subscriber ε μ)}
  {start : Announcement ε × State μ} {visits : List (Visit ε μ)}
  {ending : Except Stop Unit × Announcement ε × State μ}

/-- Every visit is one to a subscriber who supports the kind. -/
theorem isTo (course : Course kind position subscribers start visits ending)
    : ∀ visit ∈ visits, visit.IsTo kind position subscribers := by
  induction course with
  | done => simp
  | passed _ _ ih => exact fun visit member => (ih visit member).cons _
  | visited interested _ _ ih =>
      intro visit member
      rcases List.mem_cons.mp member with rfl | member
      · exact .head interested
      · exact (ih visit member).cons _
  | stopped interested _ =>
      intro visit member
      obtain rfl := List.mem_singleton.mp member
      exact .head interested

/-- The visits begin with the first interested subscriber and leave none out until they end. -/
theorem positions (course : Course kind position subscribers start visits ending)
    : visits.map Visit.position <+: subscribers.findIdxs (·.supports kind) position := by
  induction course with
  | done => simp
  | passed uninterested _ ih => simpa [uninterested] using ih
  | visited interested _ _ ih => simpa [interested, Subscriber.visit] using ih
  | stopped interested _ => simp [interested, Subscriber.visit]

/-- Unless one of them stops, all interested subscribers are visited. -/
theorem positions_of_ok (course : Course kind position subscribers start visits ending)
    (ends : ending.1 = .ok ())
    : visits.map Visit.position = subscribers.findIdxs (·.supports kind) position := by
  induction course with
  | done => rfl
  | passed uninterested _ ih => simpa [uninterested] using ih ends
  | visited interested _ _ ih => simpa [interested, Subscriber.visit] using ih ends
  | stopped _ _ => cases ends

/-- The first visit finds what is published. -/
theorem start_eq (course : Course kind position subscribers start visits ending)
    : ∀ first ∈ visits.head?, first.before = start := by
  induction course with
  | done => simp
  | passed _ _ ih => exact ih
  | visited _ _ _ _ => simp [Subscriber.visit]
  | stopped _ _ => simp [Subscriber.visit]

/-- A visit is followed by another only if it has not stopped, and the next one finds what it has
left.
-/
theorem isChain (course : Course kind position subscribers start visits ending)
    : visits.IsChain (fun visit next => visit.result = .ok () ∧ next.before = visit.after) := by
  induction course with
  | done => exact .nil
  | passed _ _ ih => exact ih
  | visited _ goesOn course ih =>
      exact List.isChain_cons.mpr ⟨fun next first => ⟨goesOn, course.start_eq next first⟩, ih⟩
  | stopped _ _ => exact .singleton _

/-- A delivery ends as its last visit ends. -/
theorem ending_eq (course : Course kind position subscribers start visits ending)
    : ending
      = (visits.getLast?.map (fun last => (last.result, last.after))).getD (.ok (), start) := by
  induction course with
  | done => rfl
  | passed _ _ ih => exact ih
  | @visited position subscriber rest start visits ending _ goesOn _ ih =>
      rw [ih]
      cases visits with
      | nil => simp [goesOn]
      | cons next later => simp [List.getLast?_cons]
  | stopped _ stops => simp [stops]

/-- A delivery stops if one of its visits does, and for the same cause. -/
theorem stops_iff (course : Course kind position subscribers start visits ending) (stop : Stop)
    : ending.1 = .error stop ↔ ∃ visit ∈ visits, visit.result = .error stop := by
  induction course with
  | done => simp
  | passed _ _ ih => exact ih
  | visited _ goesOn _ ih => simp [goesOn, ih]
  | stopped _ stops => simp [stops]

/-- A delivery has a visit if and only if a subscriber supports the kind. -/
theorem ne_nil_iff (course : Course kind position subscribers start visits ending)
    : visits ≠ [] ↔ subscribers.findIdxs (·.supports kind) position ≠ [] := by
  induction course with
  | done => simp
  | passed uninterested _ ih => simpa [uninterested] using ih
  | visited interested _ _ _ => simp [interested]
  | stopped interested _ => simp [interested]

end Course

end Lifecycle
