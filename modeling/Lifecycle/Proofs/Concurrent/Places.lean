import Lifecycle.Proofs.Concurrent.EvictionRaces

/-! One call among others. A call is told by its thread and by how many calls of the thread come
before it. It is under way, as the latest of its thread, until it has come back with a reply, which
stays; in the meantime it takes the steps of its own thread and no others.
-/

namespace Lifecycle.Concurrent.Machine

variable {ground : Ground} {tick : Tick} {machine next : Machine} {thread : ThreadId} {place : Nat}

/-- The call that the thread makes after so many others is under way and has come to be as told, or
it has come back and its reply is as told.
-/
def CallAt (machine : Machine) (thread : ThreadId) (place : Nat) (under : Activity → Prop)
    (back : Request × Reply → Prop) : Prop :=
  (machine.answered thread = place
      ∧ ∃ activity, machine.activity? thread = some activity ∧ under activity)
  ∨ ∃ entry, machine.reply? thread place = some entry ∧ back entry

/-- A call that has come back has a place before all that have yet to. -/
theorem lt_answered_of_reply? {entry : Request × Reply}
    (replied : machine.reply? thread place = some entry)
    : place < machine.answered thread := by
  obtain ⟨found, among, listed⟩ := Option.bind_eq_some_iff.mp replied
  rw [answered, among]
  exact (List.getElem?_eq_some_iff.mp listed).1

theorem CallAt.imp {under after : Activity → Prop} {back come : Request × Reply → Prop}
    (call : machine.CallAt thread place under back)
    (busy : ∀ activity, under activity → after activity)
    (replied : ∀ entry, back entry → come entry)
    : machine.CallAt thread place after come := by
  rcases call with ⟨count, activity, current, holds⟩ | ⟨entry, listed, holds⟩
  · exact Or.inl ⟨count, activity, current, busy activity holds⟩
  · exact Or.inr ⟨entry, listed, replied entry holds⟩

/-- What has come back stays so. -/
theorem Moves.reply?_eq (moved : Moves ground tick machine next)
    (earlier : place < machine.answered thread)
    : next.reply? thread place = machine.reply? thread place := by
  by_cases mine : tick.thread = thread
  · subst mine
    cases moved with
    | begins found =>
        rw [reply?, reply?, found, List.getElem?_set_self (List.getElem?_eq_some_iff.mp found).1]
        rfl
    | @acts before activity shared progress found =>
        rw [answered, found] at earlier
        rw [reply?, reply?, found, List.getElem?_set_self (List.getElem?_eq_some_iff.mp found).1]
        cases progress with
        | next point => rfl
        | finish reply => exact List.getElem?_append_left earlier
  · rw [reply?, reply?, moved.threads_of_ne mine]

/-- A move of a thread that is in a call takes the call a step on. It is still the latest of the
thread, or it has come back with a reply.
-/
theorem Moves.own {activity : Activity} (moved : Moves ground tick machine next)
    (busy : machine.activity? tick.thread = some activity)
    : ∃ progress,
        activity.Goes ground tick machine.shared next.shared progress
        ∧ next.activity? tick.thread = progress.next?
        ∧ match progress with
          | .next _ => next.answered tick.thread = machine.answered tick.thread
          | .finish reply =>
              next.reply? tick.thread (machine.answered tick.thread)
                = some (activity.request, reply) := by
  cases moved with
  | begins found free =>
      rw [activity?, found, Option.bind_some, free] at busy
      cases busy
  | @acts before _ shared progress found current goes =>
      have inside := (List.getElem?_eq_some_iff.mp found).1
      rw [activity?, found, Option.bind_some, current] at busy
      cases busy
      refine ⟨progress, goes, ?_, ?_⟩
      · rw [activity?_set found, if_pos rfl]
        cases progress <;> rfl
      · cases progress with
        | next point =>
            simp only [answered, found, List.getElem?_set_self inside]
            rfl
        | finish reply =>
            simp only [reply?, answered, found, List.getElem?_set_self inside]
            simp [Thread.proceed]

/-- A move takes the call of its own thread a step on and leaves all other calls where they are. -/
theorem CallAt.move {under after : Activity → Prop} {back come : Request × Reply → Prop}
    (call : machine.CallAt thread place under back)
    (moved : Moves ground tick machine next)
    (others
      : ∀ activity,
          tick.thread ≠ thread
          → machine.activity? thread = some activity
          → under activity
          → after activity)
    (own
      : ∀ activity progress,
          tick.thread = thread
          → machine.answered thread = place
          → machine.activity? thread = some activity
          → under activity
          → activity.Goes ground tick machine.shared next.shared progress
          → next.activity? thread = progress.next?
          → (∀ later, progress.next? = some later → after later)
            ∧ ∀ reply, progress = .finish reply → come (activity.request, reply))
    (kept : ∀ entry, place < machine.answered thread → back entry → come entry)
    : next.CallAt thread place after come := by
  rcases call with ⟨count, activity, busy, holds⟩ | ⟨entry, replied, holds⟩
  · by_cases mine : tick.thread = thread
    · subst mine
      obtain ⟨progress, goes, view, reached⟩ := moved.own busy
      obtain ⟨later, last⟩ := own activity progress rfl count busy holds goes view
      cases progress with
      | next point => exact Or.inl ⟨reached.trans count, point, view, later point rfl⟩
      | finish reply => exact Or.inr ⟨(activity.request, reply), count ▸ reached, last reply rfl⟩
    · have same := moved.threads_of_ne mine
      refine Or.inl ⟨?_, activity, ?_, others activity mine busy holds⟩
      · rw [answered, same]
        exact count
      · rw [activity?, same]
        exact busy
  · have earlier := lt_answered_of_reply? replied
    exact Or.inr ⟨entry, (moved.reply?_eq earlier).trans replied, kept entry earlier holds⟩

/-- The thread of the tick begins a call by it. -/
def Begins (ground : Ground) (machine : Machine) (tick : Tick) (request : Request) : Prop :=
  machine.activity? tick.thread = none
  ∧ (machine.step? ground tick).bind (·.activity? tick.thread) = some request.begin

/-- A call that is begun is under way, after all that have come back. -/
theorem Begins.callAt {request : Request} (begins : machine.Begins ground tick request)
    (back : Request × Reply → Prop)
    : ((machine.step? ground tick).getD machine).CallAt tick.thread (machine.answered tick.thread)
        (fun activity => activity = request.begin) back := by
  obtain ⟨idle, begun⟩ := begins
  obtain ⟨next, stepped, begun⟩ := Option.bind_eq_some_iff.mp begun
  rw [stepped, Option.getD_some]
  refine Or.inl ⟨?_, _, begun, rfl⟩
  cases moves_of_step? stepped with
  | begins found =>
      rw [answered, answered, found, List.getElem?_set_self (List.getElem?_eq_some_iff.mp found).1]
      rfl
  | acts found busy =>
      rw [activity?, found, Option.bind_some, busy] at idle
      cases idle

end Lifecycle.Concurrent.Machine
