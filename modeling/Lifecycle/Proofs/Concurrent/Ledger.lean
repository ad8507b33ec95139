import Lifecycle.Proofs.Concurrent.EvictionRaces
import Mathlib.Logic.Function.Basic

/-! On which decisions a machine rests. A ledger is kept beside a run. It notes when a call took the
lock of its class; the call rests on that moment once it has decided, it hands the moment on to the
entries that it puts into the cache, and the entries to the calls that read them. The machine knows
nothing of it.
-/

namespace Lifecycle.Concurrent

open Function (update update_self update_of_ne)

/-- Moments of a run, which are told by the number of ticks before them. The ledger holds, for each
thread, when it last took a lock to find a listener. A decision is told by the moment at which the
call that makes it takes the lock: the ledger holds the decision on which the listener of each class
rests, and its trigger, and the answer of each thread, for the call that it is in and for each call
that has come back.
-/
structure Ledger where
  entered : ThreadId → Nat
  listener : TypeId → Nat
  trigger : TypeId → Nat
  answer : ThreadId → Nat
  reply : ThreadId → Nat → Nat

namespace Ledger

/-- The ledger of a run that has not begun. -/
def blank : Ledger := ⟨fun _ => 0, fun _ => 0, fun _ => 0, fun _ => 0, fun _ _ => 0⟩

/-- The answer of the thread rests on a decision of the given moment. -/
def rest (ledger : Ledger) (thread : ThreadId) (moment : Nat) : Ledger :=
  { ledger with answer := update ledger.answer thread moment }

/-- The call of the thread comes back, after so many others. -/
def finish (ledger : Ledger) (thread : ThreadId) (place : Nat) : Ledger :=
  { ledger with
    reply :=
      update ledger.reply thread (update (ledger.reply thread) place (ledger.answer thread)) }

/-- What is noted of a step inside a lock. Whoever reads an entry rests on what the entry rests on,
and whoever decides rests on that from then on. An entry rests on what the call rests on that puts
it in.
-/
def noteInside (ledger : Ledger) (shared : Shared) (thread : ThreadId) (place : Nat) (id : TypeId)
    : Stage → Ledger
  | .relookListener => ledger.rest thread (ledger.listener id)
  | .relookTrigger => ledger.rest thread (ledger.trigger id)
  | .consult => ledger.rest thread (ledger.entered thread)
  | .insertListener =>
      match shared.cache.listeners.get? id with
      | none => { ledger with listener := update ledger.listener id (ledger.answer thread) }
      | some _ => ledger.rest thread (ledger.listener id)
  | .insertTrigger _ =>
      { ledger with trigger := update ledger.trigger id (ledger.answer thread) }
  | .release _ => ledger.finish thread place
  | .countCheck | .unwind => ledger

/-- What is noted of a step of a call at a moment. Evictions decide nothing and read nothing. -/
def note (ledger : Ledger) (moment : Nat) (shared : Shared) (thread : ThreadId) (place : Nat)
    : Activity → Ledger
  | .find cls _ .lookListener => ledger.rest thread (ledger.listener cls.id)
  | .find cls _ .lookTrigger => ledger.rest thread (ledger.trigger cls.id)
  | .find _ _ (.countHit _) => ledger.finish thread place
  | .find _ _ .ensureLock => ledger
  | .find _ _ (.acquire _) => { ledger with entered := update ledger.entered thread moment }
  | .find cls _ (.inside _ stage) => ledger.noteInside shared thread place cls.id stage
  | .evict _ _ | .clear _ => ledger

/-- The ledger after the tick at a moment. Of a thread that cannot take its step nothing is noted.
-/
def record (ground : Ground) (ledger : Ledger) (machine : Machine) (tick : Tick) (moment : Nat)
    : Ledger :=
  match machine.activity? tick.thread, machine.step? ground tick with
  | some activity, some _ =>
      ledger.note moment machine.shared tick.thread (machine.answered tick.thread) activity
  | _, _ => ledger

end Ledger

/-- The ledger that is kept beside a run. -/
def Machine.ledger (ground : Ground) (machine : Machine) (schedule : List Tick) : Ledger :=
  (schedule.zipIdx.foldl (fun (reached, ledger) (tick, moment) =>
    ((reached.step? ground tick).getD reached, Ledger.record ground ledger reached tick moment))
    (machine, Ledger.blank)).2

/-- The ledger is kept tick by tick, beside the machine that the ticks before lead to. -/
theorem Machine.ledger_concat (ground : Ground) (machine : Machine) (before : List Tick)
    (tick : Tick)
    : machine.ledger ground (before ++ [tick])
      = .record ground (machine.ledger ground before) (machine.run ground before) tick
          before.length := by
  have beside (schedule : List Tick) (first : Nat) (reached : Machine) (ledger : Ledger)
      : ((schedule.zipIdx first).foldl (fun (reached, ledger) (tick, moment) =>
          ((reached.step? ground tick).getD reached,
            Ledger.record ground ledger reached tick moment))
          (reached, ledger)).1
        = reached.run ground schedule := by
    induction schedule generalizing first reached ledger with
    | nil => rfl
    | cons tick rest ih => exact ih _ _ _
  rw [ledger, List.zipIdx_append, List.foldl_append, ← beside before 0 machine .blank, Nat.zero_add]
  rfl

variable {ground : Ground} {tick : Tick} {shared reached : Shared} {id : TypeId}
  {moment place : Nat}

namespace Ledger

variable {ledger : Ledger}

/-- What a thread rests on is what it has been given to rest on. -/
theorem answer_rest (ledger : Ledger) (thread : ThreadId) (moment : Nat)
    : (ledger.rest thread moment).answer thread = moment :=
  update_self ..

theorem record_of_idle {machine : Machine} (ground : Ground) (moment : Nat)
    (idle : machine.activity? tick.thread = none)
    : ledger.record ground machine tick moment = ledger := by
  simp only [record, idle]

theorem record_of_held {machine : Machine} (moment : Nat)
    (held : machine.step? ground tick = none)
    : ledger.record ground machine tick moment = ledger := by
  unfold record
  rw [held]
  cases machine.activity? tick.thread <;> rfl

theorem record_of_busy {machine next : Machine} {activity : Activity} (moment : Nat)
    (busy : machine.activity? tick.thread = some activity)
    (stepped : machine.step? ground tick = some next)
    : ledger.record ground machine tick moment
      = ledger.note moment machine.shared tick.thread (machine.answered tick.thread) activity := by
  simp only [record, busy, stepped]

/-- What is noted of the step of a thread concerns no other thread. -/
theorem note_of_ne {activity : Activity} {thread other : ThreadId} (apart : other ≠ thread)
    : (ledger.note moment shared thread place activity).entered other = ledger.entered other
      ∧ (ledger.note moment shared thread place activity).answer other = ledger.answer other
      ∧ (ledger.note moment shared thread place activity).reply other = ledger.reply other := by
  have kept {α : Type} (former : ThreadId → α) (value : α)
      : update former thread value other = former other :=
    update_of_ne apart value former
  unfold note noteInside
  repeat' split
  all_goals simp only [rest, finish, kept, and_self]

/-- What the calls of a thread have come back with stays as it was noted. -/
theorem record_reply {machine : Machine} {thread : ThreadId}
    (back : place < machine.answered thread)
    : (ledger.record ground machine tick moment).reply thread place
      = ledger.reply thread place := by
  have finished (own : ThreadId)
      : (ledger.finish own (machine.answered own)).reply thread place
        = ledger.reply thread place := by
    simp only [finish]
    by_cases mine : thread = own
    · subst mine
      rw [update_self, update_of_ne (Nat.ne_of_lt back)]
    · rw [update_of_ne mine]
  unfold record
  split
  · unfold note noteInside
    repeat' split
    all_goals first | rfl | exact finished _
  · rfl

/-- What is noted of the step of a call concerns no class but its own, and an entry of that only if
the call is at work on it.
-/
theorem note_of_not_worksOn {activity : Activity} {thread : ThreadId}
    (elsewhere : ¬ activity.WorksOn id)
    : (ledger.note moment shared thread place activity).listener id = ledger.listener id
      ∧ (ledger.note moment shared thread place activity).trigger id = ledger.trigger id := by
  match activity, elsewhere with
  | .find cls _ (.inside _ stage), elsewhere =>
      have apart : id ≠ cls.id := fun same => elsewhere same.symm
      have kept (former : TypeId → Nat) (value : Nat)
          : update former cls.id value id = former id :=
        update_of_ne apart value former
      simp only [note, noteInside]
      repeat' split
      all_goals simp only [rest, finish, kept, and_self]
  | .find _ _ .lookListener, _ | .find _ _ .lookTrigger, _ | .find _ _ (.countHit _), _ =>
      exact ⟨rfl, rfl⟩
  | .find _ _ .ensureLock, _ | .find _ _ (.acquire _), _ | .evict _ _, _ | .clear _, _ =>
      exact ⟨rfl, rfl⟩

end Ledger

end Lifecycle.Concurrent
