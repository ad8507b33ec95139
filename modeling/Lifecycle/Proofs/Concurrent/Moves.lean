import Lifecycle.Proofs.Concurrent.Transitions

/-! What a step of a machine can do, told once. A step belongs to one thread, which begins its
next call or goes on with the one it is in; all other threads stay where they are. What every step
keeps is kept by every schedule, and no schedule loses or invents a call.
-/

namespace Lifecycle.Concurrent

/-- The calls of a thread: those that have come back, the one it is in, and those to come. -/
def Thread.calls (thread : Thread) : List Request :=
  thread.replies.map Prod.fst ++ (thread.current.map Activity.request).toList ++ thread.queue

namespace Machine

variable {ground : Ground} {tick : Tick} {machine next : Machine}

def activity? (machine : Machine) (id : ThreadId) : Option Activity :=
  machine.threads[id]?.bind Thread.current

/-- One step of the thread of a tick: it begins its next call, or it takes a step of the call it
is in.
-/
inductive Moves (ground : Ground) (tick : Tick) (machine : Machine) : Machine → Prop
  | begins {thread request queue} (found : machine.threads[tick.thread]? = some thread)
    (free : thread.current = none) (queued : thread.queue = request :: queue)
    : Moves ground tick machine
        ⟨machine.shared,
          machine.threads.set tick.thread { thread with current := some request.begin, queue }⟩
  | acts {thread activity shared progress}
    (found : machine.threads[tick.thread]? = some thread)
    (busy : thread.current = some activity)
    (goes : activity.Goes ground tick machine.shared shared progress)
    : Moves ground tick machine
        ⟨shared, machine.threads.set tick.thread (thread.proceed activity progress)⟩

/-- A machine takes a step only by a move. -/
theorem moves_of_step? (stepped : machine.step? ground tick = some next)
    : Moves ground tick machine next := by
  obtain ⟨thread, found, stepped⟩ := Option.bind_eq_some_iff.mp stepped
  obtain ⟨⟨shared, reached⟩, taken, same⟩ := Option.bind_eq_some_iff.mp stepped
  cases same
  unfold Thread.step? at taken
  split at taken
  · rename_i activity _ busy
    obtain ⟨⟨shared, progress⟩, acted, same⟩ := Option.map_eq_some_iff.mp taken
    cases same
    exact .acts found busy (Activity.goes_of_step? acted)
  · rename_i request queue free queued
    cases taken
    exact .begins found free queued
  · cases taken

/-- The step of a thread that is in a call is the step of the call. -/
theorem step?_of_busy (tick : Tick) {thread : Thread} {activity : Activity} {shared : Shared}
    {progress : Progress Activity} (found : machine.threads[tick.thread]? = some thread)
    (busy : thread.current = some activity)
    (acts : activity.step? ground tick machine.shared = some (shared, progress))
    : machine.step? ground tick
      = some ⟨shared, machine.threads.set tick.thread (thread.proceed activity progress)⟩ := by
  simp [step?, found, Thread.step?, busy, acts]

/-- A move leaves all threads but its own where they are. -/
theorem Moves.threads_of_ne {id : ThreadId} (moved : Moves ground tick machine next)
    (apart : tick.thread ≠ id)
    : next.threads[id]? = machine.threads[id]? := by
  cases moved with
  | begins | acts => exact List.getElem?_set_ne apart

/-- A tick of one thread leaves every other thread where it is. -/
theorem threads_step_of_ne {id : ThreadId} (apart : tick.thread ≠ id)
    : ((machine.step? ground tick).getD machine).threads[id]? = machine.threads[id]? := by
  cases stepped : machine.step? ground tick with
  | none => rfl
  | some next => exact (moves_of_step? stepped).threads_of_ne apart

theorem activity?_set {thread changed : Thread} {shared : Shared} {own : ThreadId}
    (found : machine.threads[own]? = some thread) (id : ThreadId)
    : (Machine.mk shared (machine.threads.set own changed)).activity? id
      = if id = own then changed.current else machine.activity? id := by
  have inside : own < machine.threads.length := (List.getElem?_eq_some_iff.mp found).1
  by_cases same : id = own
  · subst same
    simp [activity?, inside]
  · have apart : ¬ own = id := fun equal => same equal.symm
    simp [activity?, same, List.getElem?_set_ne apart]

/-- The replies of a machine one thread of which has changed are old, or the changed thread has
them.
-/
theorem mem_replies_set {changed : Thread} {shared : Shared} {own : ThreadId}
    {entry : Request × Reply}
    (member : entry ∈ (Machine.mk shared (machine.threads.set own changed)).replies)
    : entry ∈ machine.replies ∨ entry ∈ changed.replies := by
  obtain ⟨thread, member, replied⟩ := List.mem_flatMap.mp member
  rcases List.mem_or_eq_of_mem_set member with old | rfl
  · exact Or.inl (List.mem_flatMap.mpr ⟨thread, old, replied⟩)
  · exact Or.inr replied

/-- The two ways in which a move changes the calls under way and the replies. A thread begins a
call, and nothing is replied; or the call of a thread goes on, and if it comes back it leaves a
reply to what was asked for.
-/
theorem Moves.view (moved : Moves ground tick machine next)
    : (machine.activity? tick.thread = none
        ∧ next.shared = machine.shared
        ∧ ∃ request,
            (∀ id,
              next.activity? id
                = if id = tick.thread then some (Request.begin request) else machine.activity? id)
            ∧ ∀ entry ∈ next.replies, entry ∈ machine.replies)
      ∨ ∃ activity progress,
          machine.activity? tick.thread = some activity
          ∧ activity.Goes ground tick machine.shared next.shared progress
          ∧ (∀ id,
              next.activity? id
                = if id = tick.thread then progress.next? else machine.activity? id)
          ∧ ∀ entry ∈ next.replies,
              entry ∈ machine.replies
              ∨ ∃ reply, progress = .finish reply ∧ entry = (activity.request, reply) := by
  cases moved with
  | @begins thread request queue found free queued =>
      have old : ∀ entry ∈ thread.replies, entry ∈ machine.replies := fun entry replied =>
        List.mem_flatMap.mpr ⟨thread, List.mem_of_getElem? found, replied⟩
      refine Or.inl ⟨by simp [activity?, found, free], rfl, request, activity?_set found, ?_⟩
      intro entry member
      exact (mem_replies_set member).elim id (old entry)
  | @acts thread activity shared progress found busy goes =>
      have old : ∀ entry ∈ thread.replies, entry ∈ machine.replies := fun entry replied =>
        List.mem_flatMap.mpr ⟨thread, List.mem_of_getElem? found, replied⟩
      refine Or.inr ⟨activity, progress, by simp [activity?, found, busy], goes, ?_, ?_⟩
      · intro id
        rw [activity?_set found]
        cases progress <;> rfl
      · intro entry member
        rcases mem_replies_set member with earlier | replied
        · exact Or.inl earlier
        · cases progress with
          | next => exact Or.inl (old entry replied)
          | finish reply =>
              rcases List.mem_append.mp replied with earlier | new
              · exact Or.inl (old entry earlier)
              · exact Or.inr ⟨reply, rfl, List.mem_singleton.mp new⟩

/-- What all threads of a machine weigh together. -/
def total (weight : Thread → Nat) (threads : List Thread) : Nat :=
  threads.foldr (fun thread rest => weight thread + rest) 0

/-- The total changes, when one thread does, by what that thread weighs. -/
theorem total_set {threads : List Thread} {own : ThreadId} {thread : Thread}
    (weight : Thread → Nat) (changed : Thread) (found : threads[own]? = some thread)
    : total weight (threads.set own changed) + weight thread
      = total weight threads + weight changed := by
  induction threads generalizing own with
  | nil => cases found
  | cons head rest ih =>
      cases own with
      | zero =>
          cases found
          simp only [List.set_cons_zero, total, List.foldr_cons]
          omega
      | succ own =>
          have found : rest[own]? = some thread := found
          have inner := ih found
          simp only [List.set_cons_succ, total, List.foldr_cons] at inner ⊢
          omega

/-- Threads that weigh nothing weigh nothing together. -/
theorem total_eq_zero {weight : Thread → Nat} {threads : List Thread}
    (light : ∀ thread ∈ threads, weight thread = 0)
    : total weight threads = 0 := by
  induction threads with
  | nil => rfl
  | cons head rest ih =>
      obtain ⟨first, others⟩ := List.forall_mem_cons.mp light
      have inner := ih others
      simp only [total, List.foldr_cons] at inner ⊢
      omega

/-- No move loses or invents a call: what came back, is under way or is to come stays the same for
each thread, in order.
-/
theorem Moves.calls (moved : Moves ground tick machine next)
    : next.threads.map Thread.calls = machine.threads.map Thread.calls := by
  have keeps {thread changed : Thread} (found : machine.threads[tick.thread]? = some thread)
      (same : changed.calls = thread.calls)
      : (machine.threads.set tick.thread changed).map Thread.calls
        = machine.threads.map Thread.calls := by
    apply List.ext_getElem?
    intro id
    by_cases own : tick.thread = id
    · subst own
      have inside := (List.getElem?_eq_some_iff.mp found).1
      simp only [List.getElem?_map, List.getElem?_set_self inside, found, Option.map_some, same]
    · simp [List.getElem?_set_ne own]
  cases moved with
  | @begins thread request queue found free queued =>
      refine keeps found ?_
      cases request <;> simp [Thread.calls, free, queued, Request.begin, Activity.request]
  | @acts thread activity shared progress found busy goes =>
      refine keeps found ?_
      cases progress with
      | next reached =>
          simp [Thread.calls, Thread.proceed, busy, goes.request_eq rfl]
      | finish reply => simp [Thread.calls, Thread.proceed, busy]

theorem run_cons (machine : Machine) (tick : Tick) (rest : List Tick)
    : machine.run ground (tick :: rest)
      = ((machine.step? ground tick).getD machine).run ground rest := rfl

theorem run_append (machine : Machine) (first rest : List Tick)
    : machine.run ground (first ++ rest) = (machine.run ground first).run ground rest := by
  simp only [run, List.foldl_append]

/-- What every move keeps holds after every schedule, by induction over its ticks. The machine
before a move is one that an earlier part of the schedule leads to.
-/
theorem run_induction (kept : Machine → Prop) {schedule : List Tick} (start : kept machine)
    (keeps : ∀ before tick next,
      kept (machine.run ground before)
      → tick ∈ schedule
      → Moves ground tick (machine.run ground before) next
      → kept next)
    : kept (machine.run ground schedule) := by
  have follows (rest before : List Tick) (split : before ++ rest = schedule)
      (holds : kept (machine.run ground before))
      : kept (machine.run ground schedule) := by
    induction rest generalizing before with
    | nil =>
        rw [← split, List.append_nil]
        exact holds
    | cons tick rest ih =>
        refine ih (before ++ [tick]) (by rw [← split]; simp) ?_
        rw [run_append, run_cons]
        cases stepped : (machine.run ground before).step? ground tick with
        | none => exact holds
        | some next =>
            have member : tick ∈ schedule := by simp [← split]
            exact keeps before tick next holds member (moves_of_step? stepped)
  exact follows schedule [] rfl start

/-- A schedule loses and invents no call of any thread. -/
theorem calls_run (ground : Ground) (machine : Machine) (schedule : List Tick)
    : (machine.run ground schedule).threads.map Thread.calls
      = machine.threads.map Thread.calls := by
  refine run_induction
    (fun reached => reached.threads.map Thread.calls = machine.threads.map Thread.calls) rfl ?_
  exact fun _ _ _ same _ moved => moved.calls.trans same

@[simp] theorem calls_initial (requests : List (List Request))
    : (Machine.initial requests).threads.map Thread.calls = requests := by
  have plain (calls : List Request) : (Thread.making calls).calls = calls := by
    simp [Thread.making, Thread.calls]
  simp [initial, plain, Function.comp_def]

/-- Whatever call is under way is one that its thread was given to make. -/
theorem request_mem_of_activity? {requests : List (List Request)} {schedule : List Tick}
    {id : ThreadId} {activity : Activity}
    (under : ((Machine.initial requests).run ground schedule).activity? id = some activity)
    : activity.request ∈ requests.flatten := by
  obtain ⟨thread, found, busy⟩ := Option.bind_eq_some_iff.mp under
  have calls : thread.calls ∈ requests := by
    rw [← calls_initial requests, ← calls_run ground _ schedule]
    exact List.mem_map_of_mem (List.mem_of_getElem? found)
  refine List.mem_flatten.mpr ⟨thread.calls, calls, ?_⟩
  simp [Thread.calls, busy]

@[simp] theorem activity?_initial (requests : List (List Request)) (id : ThreadId)
    : (Machine.initial requests).activity? id = none := by
  simp only [activity?, initial, List.getElem?_map]
  cases requests[id]? <;> rfl

end Machine

end Lifecycle.Concurrent
