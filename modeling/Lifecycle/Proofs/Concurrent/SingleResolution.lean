import Lifecycle.Proofs.Concurrent.Completion
import Mathlib.Data.List.Dedup

/-! What a schedule has come to when every call has come back, if all calls ask for listeners and
the mapping always says the same: each class that was asked for has been resolved exactly once.
-/

namespace Lifecycle.Concurrent

namespace Machine

variable {ground : Ground} {machine : Machine} {mapped : TypeId → Bool}
  {classes : List EntityClass} {asked : List (List EntityClass)} {standing : TypeId → Standing}

/-- A thread of an idle machine is in no call and has made all its calls. -/
theorem done_of_isIdle (idle : machine.isIdle) {thread : Thread} (member : thread ∈ machine.threads)
    : thread.current = none ∧ thread.calls = thread.replies.map Prod.fst := by
  have done := List.all_eq_true.mp idle thread member
  simp only [Thread.isDone, Bool.and_eq_true, Option.isNone_iff_eq_none, List.isEmpty_iff] at done
  exact ⟨done.1, by simp [Thread.calls, done]⟩

/-- No call is under way on an idle machine. -/
theorem activity?_of_isIdle (idle : machine.isIdle) (id : ThreadId)
    : machine.activity? id = none := by
  cases found : machine.threads[id]? with
  | none => simp [activity?, found]
  | some thread => simp [activity?, found, done_of_isIdle idle (List.mem_of_getElem? found)]

/-- A reply on an idle machine is the settled answer of its class. -/
theorem Stands.settled_of_reply (stands : machine.Stands mapped classes standing)
    (idle : machine.isIdle) {cls : EntityClass} {factory : Option SessionFactory} {reply : Reply}
    (member : (.find cls factory, reply) ∈ machine.replies)
    : reply = .found (machine.shared.cache.listeners.get? cls.id)
      ∧ ∃ answer, standing cls.id = .settled answer := by
  obtain ⟨answer, rfl, grants⟩ := stands.granted member
  have settled := grants.eq_settled (fun opened => by
    obtain ⟨thread, activity, under, -⟩ := stands.resolving opened
    exact nomatch (activity?_of_isIdle idle thread).symm.trans under)
  refine ⟨?_, answer, settled⟩
  rw [(stands.shared cls.id).listener, settled]
  rfl

/-- Two lists that agree in one respect, element by element, agree in another that follows. -/
theorem map_eq_map_of_imp {α β γ δ : Type} {left : List α} {right : List β} {one : α → γ}
    {other : β → γ} {further : α → δ} {besides : β → δ} (same : left.map one = right.map other)
    (follows : ∀ first ∈ left, ∀ second, one first = other second → further first = besides second)
    : left.map further = right.map besides := by
  induction left generalizing right with
  | nil =>
      cases right with
      | nil => rfl
      | cons => cases same
  | cons first rest ih =>
      cases right with
      | nil => cases same
      | cons second others =>
          obtain ⟨heads, tails⟩ := List.cons.inj same
          obtain ⟨here, there⟩ := List.forall_mem_cons.mp follows
          rw [List.map_cons, List.map_cons, here second heads, ih tails there]

/-- The numbers of the classes that were asked for, each once. -/
def askedIds (asked : List (List EntityClass)) : List TypeId :=
  (asked.flatten.map EntityClass.id).dedup

theorem mem_askedIds {asked : List (List EntityClass)} {id : TypeId}
    : id ∈ askedIds asked ↔ ∃ cls ∈ asked.flatten, cls.id = id := by
  simp only [askedIds, List.mem_dedup, List.mem_map]

theorem nodup_askedIds (asked : List (List EntityClass)) : (askedIds asked).Nodup :=
  List.nodup_dedup _

section Idle

variable (stands : machine.Stands mapped asked.flatten standing) (idle : machine.isIdle)
  (calls
    : machine.threads.map Thread.calls
      = asked.map (fun classes => classes.map (Request.find · none)))

include stands idle calls

/-- Every call of an idle machine has been answered with what the cache holds for its class. -/
theorem Stands.replies_eq
    : machine.threads.map Thread.replies
      = asked.map (fun classes => classes.map (fun cls =>
          (.find cls none, .found (machine.shared.cache.listeners.get? cls.id)))) := by
  refine map_eq_map_of_imp calls (fun thread member classes made => ?_)
  rw [(done_of_isIdle idle member).2] at made
  rw [← List.map_id thread.replies]
  refine map_eq_map_of_imp made (fun entry replied cls asks => ?_)
  obtain ⟨request, reply⟩ := entry
  obtain rfl : request = .find cls none := asks
  have settled := stands.settled_of_reply idle (List.mem_flatMap.mpr ⟨thread, member, replied⟩)
  exact congrArg (Prod.mk _) settled.1

/-- Every class that was asked for is settled on an idle machine. -/
theorem Stands.settled_of_asked {cls : EntityClass} (member : cls ∈ asked.flatten)
    : ∃ answer, standing cls.id = .settled answer := by
  obtain ⟨classes, listed, among⟩ := List.mem_flatten.mp member
  have replied : (.find cls none, .found (machine.shared.cache.listeners.get? cls.id))
      ∈ machine.replies := by
    rw [replies, List.flatMap_def, stands.replies_eq idle calls]
    exact List.mem_flatten.mpr ⟨_, List.mem_map_of_mem listed, List.mem_map.mpr ⟨cls, among, rfl⟩⟩
  exact (stands.settled_of_reply idle replied).2

/-- On an idle machine a class is settled if it was asked for and fresh otherwise. -/
theorem Stands.standing_of_isIdle (id : TypeId)
    : (id ∈ askedIds asked ∧ ∃ answer, standing id = .settled answer ∧ answer.isSome = mapped id)
      ∨ (id ∉ askedIds asked ∧ standing id = .fresh) := by
  by_cases member : id ∈ askedIds asked
  · obtain ⟨cls, among, rfl⟩ := mem_askedIds.mp member
    obtain ⟨answer, settled⟩ := stands.settled_of_asked idle calls among
    have truthful := stands.truthful cls.id
    rw [settled] at truthful
    exact Or.inl ⟨member, answer, settled, truthful⟩
  · refine Or.inr ⟨member, Classical.byContradiction (fun begun => member ?_)⟩
    exact mem_askedIds.mpr (stands.asked begun)

/-- The mapping was asked about each class once. -/
theorem Stands.perm_consulted : machine.shared.consulted.Perm (askedIds asked) := by
  refine List.perm_iff_count.mpr (fun id => ?_)
  rw [(stands.shared id).questions]
  rcases stands.standing_of_isIdle idle calls id with ⟨member, answer, settled, -⟩ | ⟨absent, fresh⟩
  · rw [settled, (nodup_askedIds asked).count, if_pos member]
    rfl
  · rw [fresh, List.count_eq_zero.mpr absent]
    rfl

/-- The cache holds a listener for each mapped class. -/
theorem Stands.perm_listeners
    : machine.shared.cache.listeners.ids.Perm ((askedIds asked).filter mapped) := by
  refine (List.perm_ext_iff_of_nodup (Table.nodup_ids _) ((nodup_askedIds asked).filter _)).mpr ?_
  intro id
  rw [Table.mem_ids_iff, (stands.shared id).listener, List.mem_filter]
  rcases stands.standing_of_isIdle idle calls id
    with ⟨member, answer, settled, truthful⟩ | ⟨absent, fresh⟩
  · simp [settled, member, Standing.listener?, truthful]
  · simp [fresh, absent, Standing.listener?]

/-- The cache holds a trigger for each class. -/
theorem Stands.perm_triggers : machine.shared.cache.triggers.ids.Perm (askedIds asked) := by
  refine (List.perm_ext_iff_of_nodup (Table.nodup_ids _) (nodup_askedIds asked)).mpr ?_
  intro id
  rw [Table.mem_ids_iff, (stands.shared id).trigger]
  rcases stands.standing_of_isIdle idle calls id with ⟨member, answer, settled, -⟩ | ⟨absent, fresh⟩
  · simp [settled, member, Standing.trigger?]
  · simp [fresh, absent, Standing.trigger?]

end Idle

/-- Threads that ask for the listeners of classes, at the same time and on an interceptor that has
remembered nothing yet, resolve each class once. However their steps interleave they can all come
back. When they have, every call was answered with what the cache holds for its class, which is a
listener if the class is mapped and nothing if it is not; the mapping was asked once about each
class, as often as checks were counted; and the cache holds a trigger for each class and a listener
for each mapped one, no more of them than were created.
-/
theorem single_resolution (ground : Ground) (mapped : TypeId → Bool)
    (asked : List (List EntityClass)) (schedule : List ThreadId)
    : (∃ rest,
        ((finding asked).run ground ((schedule ++ rest).map (Tick.steady mapped))).isIdle)
      ∧ (let machine := (finding asked).run ground (schedule.map (Tick.steady mapped))
        machine.isIdle
        → machine.threads.map Thread.replies
            = asked.map (fun classes => classes.map (fun cls =>
                (.find cls none, .found (machine.shared.cache.listeners.get? cls.id))))
          ∧ (∀ cls ∈ asked.flatten,
              (machine.shared.cache.listeners.get? cls.id).isSome = mapped cls.id)
          ∧ machine.shared.consulted.Perm (askedIds asked)
          ∧ ∃ hits,
              machine.shared.cache.stats
                = { cachedListeners := ((askedIds asked).filter mapped).length
                    cachedClasses := (askedIds asked).length
                    listenersCreated := ((askedIds asked).filter mapped).length
                    eligibilityChecks := (askedIds asked).length
                    cacheHits := hits }) := by
  refine ⟨exists_isIdle ground mapped asked schedule, ?_⟩
  intro machine idle
  obtain ⟨standing, stands⟩ : ∃ standing, machine.Stands mapped asked.flatten standing := by
    refine Stands.run (fun tick member => ?_)
    obtain ⟨thread, -, rfl⟩ := List.mem_map.mp member
    exact Tick.follows_steady mapped thread
  have counted : machine.Counted := .run _
  have calls
      : machine.threads.map Thread.calls
        = asked.map (fun classes => classes.map (Request.find · none)) :=
    (calls_run _ _ _).trans (calls_initial _)
  have consulted := stands.perm_consulted idle calls
  refine ⟨stands.replies_eq idle calls, ?_, consulted, machine.shared.cache.hits, ?_⟩
  · intro cls member
    obtain ⟨answer, settled⟩ := stands.settled_of_asked idle calls member
    have truthful := stands.truthful cls.id
    rw [settled] at truthful
    rw [(stands.shared cls.id).listener, settled]
    exact truthful
  · have quiet := consulting_of_quiet (fun thread member => (done_of_isIdle idle member).1)
    have checks := counted.checks.trans (congrArg (_ + ·) quiet)
    have listeners := (Table.length_ids _).symm.trans (stands.perm_listeners idle calls).length_eq
    have triggers := (Table.length_ids _).symm.trans (stands.perm_triggers idle calls).length_eq
    simp only [Cache.stats, counted.created, checks, listeners, triggers, consulted.length_eq,
      Nat.add_zero]

/-- Two threads that ask for one class, which they describe differently. -/
def rivals : List (List EntityClass) :=
  [[⟨⟨7, "shop::Order"⟩, false⟩], [⟨⟨7, "shop::Order"⟩, true⟩]]

/-- Two threads take their steps in turn, so that the one that comes second to the lock waits. -/
def inTurn : List ThreadId := (List.replicate 16 [0, 1]).flatten

/-- Rivals for a mapped class are both answered with its one listener. -/
theorem single_resolution_rivals
    : let machine :=
        (finding rivals).run ⟨⟨⟨0, "main"⟩, default⟩, .fixed 0 0⟩
          (inTurn.map (Tick.steady (fun _ => true)))
      machine.isIdle
      ∧ (machine.shared.cache.listeners.get? 7).isSome
      ∧ machine.shared.consulted.Perm (askedIds rivals) := by
  have idle
      : ((finding rivals).run ⟨⟨⟨0, "main"⟩, default⟩, .fixed 0 0⟩
          (inTurn.map (Tick.steady (fun _ => true)))).isIdle := by
    decide +kernel
  obtain ⟨-, answered, consulted, -⟩ :=
    (single_resolution ⟨⟨⟨0, "main"⟩, default⟩, .fixed 0 0⟩ (fun _ => true) rivals inTurn).2 idle
  exact ⟨idle, answered ⟨⟨7, "shop::Order"⟩, false⟩ (by simp [rivals]), consulted⟩

end Machine

end Lifecycle.Concurrent
