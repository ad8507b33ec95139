import Lifecycle.Proofs.Nesting.Holding
import Lifecycle.Proofs.Resolution.Isolation
import Lifecycle.Scenario.ScriptedEntity

/-! The two tables of a cache. A class has a listener if and only if its trigger says so, and the
listener is the one that a resolution of the class makes. A resolution under way can be in the midst
of any other calls, but while it has the lock of its class the cache says nothing of the class.
-/

namespace Lifecycle

variable {ε μ : Type}

namespace Interceptor

variable {interceptor : Interceptor ε μ}

-----------------------------------------------------------------------------------------
-- What the cache says of a class
-----------------------------------------------------------------------------------------

/-- The tables of a cache go together: a class that has a listener has a trigger that says so, and
no trigger says so of a class that has none. A listener is filed under its own class, made by the
rules of the interceptor, and no other class has it. Of a class that is held nothing is said.
-/
structure Coherent (interceptor : Interceptor ε μ) (state : State μ) : Prop where
  flagged
    : ∀ {id listener},
        state.cache.listeners.get? id = some listener → state.cache.triggers.get? id = some true
  listed
    : ∀ {id},
        state.cache.triggers.get? id = some true
        → ∃ listener, state.cache.listeners.get? id = some listener
  made
    : ∀ {id listener},
        state.cache.listeners.get? id = some listener
        → listener.cls.id = id
          ∧ listener = .make listener.serial listener.cls interceptor.config state.clock
          ∧ listener.serial < state.cache.nextSerial
  apart
    : ∀ {id other listener another},
        state.cache.listeners.get? id = some listener
        → state.cache.listeners.get? other = some another
        → listener.serial = another.serial
        → id = other
  bare
    : ∀ {id},
        state.cache.isHeld id = true
        → state.cache.listeners.get? id = none ∧ state.cache.triggers.get? id = none

namespace Coherent

variable {state after : State μ}

theorem initial (clock : Clock) (memory : μ) : interceptor.Coherent (.initial clock memory) :=
  ⟨fun found => (nomatch found), fun found => (nomatch found), fun found => (nomatch found),
    fun found _ => (nomatch found), fun held => (nomatch held)⟩

/-- The tables go together as before if they are the same and say nothing of what is held now. -/
theorem frame (coherent : interceptor.Coherent state)
    (listeners : after.cache.listeners = state.cache.listeners)
    (triggers : after.cache.triggers = state.cache.triggers) (clock : after.clock = state.clock)
    (serial : after.cache.nextSerial = state.cache.nextSerial)
    (bare
      : ∀ id,
          after.cache.isHeld id = true
          → state.cache.listeners.get? id = none ∧ state.cache.triggers.get? id = none)
    : interceptor.Coherent after := by
  constructor
  · rw [listeners, triggers]
    exact coherent.flagged
  · rw [listeners, triggers]
    exact coherent.listed
  · rw [listeners, clock, serial]
    exact coherent.made
  · rw [listeners]
    exact coherent.apart
  · rw [listeners, triggers]
    exact fun held => bare _ held

/-- Nothing at all is said of a class that is not decided on. -/
theorem absent_of_undecided (coherent : interceptor.Coherent state) {id : TypeId}
    (undecided : state.cache.decided? id = none)
    : state.cache.listeners.get? id = none ∧ state.cache.triggers.get? id = none := by
  unfold Cache.decided? at undecided
  cases found : state.cache.listeners.get? id with
  | some listener =>
      rw [found] at undecided
      cases undecided
  | none =>
      rw [found] at undecided
      refine ⟨rfl, ?_⟩
      rcases flag : state.cache.triggers.get? id with _ | _ | _
      · rfl
      · rw [flag] at undecided
        cases undecided
      · obtain ⟨listener, listed⟩ := coherent.listed flag
        cases found.symm.trans listed

/-- An undecided class may be entered. -/
theorem enter (coherent : interceptor.Coherent state) (paired : state.cache.Paired)
    {id : TypeId} {lock : LockId} {taken : Cache}
    (undecided : state.cache.decided? id = none)
    (enters : state.cache.enter? id = some (lock, taken))
    : interceptor.Coherent { state with cache := taken.countCheck } := by
  obtain ⟨-, -, -, -, others⟩ := paired.enter enters
  have same := Cache.enter?_frame enters
  refine coherent.frame ?_ ?_ rfl ?_ (fun other held => ?_)
  · show taken.listeners = _
    rw [same]
  · show taken.triggers = _
    rw [same]
  · show taken.nextSerial = _
    rw [same]
  · by_cases own : other = id
    · subst own
      exact coherent.absent_of_undecided undecided
    · exact coherent.bare ((others other own).symm.trans held)

/-- A class that is held may be given back, be it settled or not. -/
theorem release (coherent : interceptor.Coherent state) (paired : state.cache.Paired)
    {id : TypeId} {lock : LockId} (known : state.cache.locks.get? id = some lock)
    (panicked : Bool)
    : interceptor.Coherent (state.mapCache (·.release lock panicked)) := by
  obtain ⟨-, unheld, others⟩ := paired.release known panicked
  refine coherent.frame rfl rfl rfl rfl (fun other held => ?_)
  by_cases own : other = id
  · subst own
    cases unheld.symm.trans held
  · exact coherent.bare ((others other own).symm.trans held)

/-- A class that is held is settled, and its lock is given back. -/
theorem settle (coherent : interceptor.Coherent state) (paired : state.cache.Paired)
    {cls : EntityClass} {lock : LockId} (known : state.cache.locks.get? cls.id = some lock)
    (vacant : state.cache.listeners.get? cls.id = none) (eligible : Bool)
    : interceptor.Coherent
        (((interceptor.settle cls eligible).outcome state).2.mapCache (·.release lock false)) := by
  have settled := interceptor.settled_of_vacant cls eligible vacant
  generalize ((interceptor.settle cls eligible).outcome state).2 = after at settled
  obtain ⟨locks, latches⟩ := settled.locks
  obtain ⟨-, unheld, others⟩ := (paired.frame locks latches).release (locks ▸ known) false
  -- The new listener has a serial number that no listener had.
  have new {id : TypeId} {listener : Listener}
      (found : state.cache.listeners.get? id = some listener)
      : listener.serial ≠ state.cache.nextSerial :=
    Nat.ne_of_lt (coherent.made found).2.2
  constructor
  · intro id listener found
    refine (settled.triggers id).trans ?_
    rcases settled.found found with ⟨own, rfl, -⟩ | ⟨other, before⟩
    · exact if_pos own
    · exact (if_neg other).trans (coherent.flagged before)
  · intro id flagged
    have flagged := (settled.triggers id).symm.trans flagged
    split at flagged
    · rename_i own
      obtain rfl := Option.some.inj flagged
      exact ⟨_, (settled.listeners id).trans (if_pos own)⟩
    · rename_i other
      obtain ⟨listener, before⟩ := coherent.listed flagged
      exact ⟨listener, (settled.listeners id).trans ((if_neg other).trans before)⟩
  · intro id listener found
    show _ ∧ listener = .make _ _ _ after.clock ∧ _ < after.cache.nextSerial
    rw [settled.elsewhere.1, settled.nextSerial]
    rcases settled.found found with ⟨rfl, rfl, rfl⟩ | ⟨-, before⟩
    · exact ⟨rfl, rfl, Nat.lt_succ_self _⟩
    · obtain ⟨filed, made, numbered⟩ := coherent.made before
      exact ⟨filed, made, Nat.lt_of_lt_of_le numbered (Nat.le_add_right _ _)⟩
  · intro id other listener another found found' same
    rcases settled.found found with ⟨own, -, rfl⟩ | ⟨-, before⟩
    · rcases settled.found found' with ⟨own', -, -⟩ | ⟨-, before'⟩
      · exact own.trans own'.symm
      · exact absurd same.symm (new before')
    · rcases settled.found found' with ⟨-, -, rfl⟩ | ⟨-, before'⟩
      · exact absurd same (new before)
      · exact coherent.apart before before' same
  · intro id held
    have other : id ≠ cls.id := by
      rintro rfl
      cases unheld.symm.trans held
    have before : state.cache.isHeld id = true :=
      (Cache.isHeld_frame locks latches).symm.trans ((others id other).symm.trans held)
    obtain ⟨absent, silent⟩ := coherent.bare before
    exact ⟨(settled.listeners id).trans ((if_neg other).trans absent),
      (settled.triggers id).trans ((if_neg other).trans silent)⟩

/-- A class may be forgotten, and then nothing is said of it. -/
theorem forget (coherent : interceptor.Coherent state) (id : TypeId)
    : interceptor.Coherent (state.mapCache (·.forget id)) := by
  have listeners := state.cache.listeners_forget id
  have triggers := state.cache.triggers_forget id
  have kept {other : TypeId} {listener : Listener}
      (found : (state.cache.forget id).listeners.get? other = some listener)
      : other ≠ id ∧ state.cache.listeners.get? other = some listener := by
    rw [listeners] at found
    split at found
    · cases found
    · exact ⟨by assumption, found⟩
  constructor
  · intro other listener found
    obtain ⟨apart, before⟩ := kept found
    exact ((triggers other).trans (if_neg apart)).trans (coherent.flagged before)
  · intro other flagged
    have flagged := (triggers other).symm.trans flagged
    split at flagged
    · cases flagged
    · obtain ⟨listener, found⟩ := coherent.listed flagged
      exact ⟨listener, ((listeners other).trans (if_neg (by assumption))).trans found⟩
  · intro other listener found
    exact coherent.made (kept found).2
  · intro one other listener another found found'
    exact coherent.apart (kept found).2 (kept found').2
  · intro other held
    obtain ⟨absent, silent⟩ := coherent.bare held
    have listed := listeners other
    have flagged := triggers other
    rw [absent, ite_self] at listed
    rw [silent, ite_self] at flagged
    exact ⟨listed, flagged⟩

/-- Nothing is wrong with a cache that says nothing. -/
theorem clear (state : State μ) : interceptor.Coherent (state.mapCache Cache.clear) :=
  ⟨fun found => (nomatch found), fun found => (nomatch found), fun found => (nomatch found),
    fun found _ => (nomatch found), fun _ => ⟨rfl, rfl⟩⟩

end Coherent

/-- The tables go together after every course of calls. -/
theorem Course.coherent {before reached : State μ} {deeds : List Deed} {ending : Ending}
    (course : interceptor.Course before deeds ending reached) (paired : before.cache.Paired)
    (coherent : interceptor.Coherent before)
    : interceptor.Coherent reached := by
  induction course with
  | stays => exact coherent
  | elsewhere | hits => exact coherent.frame rfl rfl rfl rfl (fun _ held => coherent.bare held)
  | append first rest ih ih' => exact ih' (first.returns paired).paired (ih paired coherent)
  | @settles state middle cls factory lock taken deeds eligible undecided enters within own ih =>
      obtain ⟨inside, known, -, held, -⟩ := paired.enter enters
      have returns := within.returns (inside.frame rfl rfl)
      have resolved := ih (inside.frame rfl rfl) (coherent.enter paired undecided enters)
      obtain ⟨vacant, -⟩ := resolved.bare (returns.held held)
      exact resolved.settle returns.paired (returns.known known) vacant eligible
  | @unwinds state middle cls factory lock taken deeds undecided enters within ih =>
      obtain ⟨inside, known, -, -, -⟩ := paired.enter enters
      have returns := within.returns (inside.frame rfl rfl)
      have resolved := ih (inside.frame rfl rfl) (coherent.enter paired undecided enters)
      exact resolved.release returns.paired (returns.known known) true
  | hangs undecided enters within ih =>
      obtain ⟨inside, -⟩ := paired.enter enters
      exact ih (inside.frame rfl rfl) (coherent.enter paired undecided enters)
  | evicts => exact coherent.forget _
  | clears => exact .clear _

-----------------------------------------------------------------------------------------
-- Every reachable state
-----------------------------------------------------------------------------------------

/-- The locks of a state are in order, and so are its tables. -/
structure Tidy (interceptor : Interceptor ε μ) (state : State μ) : Prop where
  paired : state.cache.Paired
  coherent : interceptor.Coherent state

theorem Course.tidy {before reached : State μ} {deeds : List Deed} {ending : Ending}
    (course : interceptor.Course before deeds ending reached) (tidy : interceptor.Tidy before)
    : interceptor.Tidy reached :=
  ⟨(course.returns tidy.paired).paired, course.coherent tidy.paired tidy.coherent⟩

theorem Tidy.enter {state : State μ} {id : TypeId} {lock : LockId} {taken : Cache}
    (tidy : interceptor.Tidy state) (undecided : state.cache.decided? id = none)
    (enters : state.cache.enter? id = some (lock, taken))
    : interceptor.Tidy { state with cache := taken.countCheck } :=
  ⟨(tidy.paired.enter enters).1.frame rfl rfl, tidy.coherent.enter tidy.paired undecided enters⟩

/-- When the calls that a resolution leads to have ended, its class still has its lock and is held,
and nothing is said of it.
-/
theorem Course.inside {state middle : State μ} {deeds : List Deed} {ending : Ending} {id : TypeId}
    {lock : LockId} {taken : Cache}
    (within : interceptor.Course { state with cache := taken.countCheck } deeds ending middle)
    (tidy : interceptor.Tidy state) (undecided : state.cache.decided? id = none)
    (enters : state.cache.enter? id = some (lock, taken))
    : interceptor.Tidy middle
      ∧ middle.cache.locks.get? id = some lock
      ∧ middle.cache.listeners.get? id = none
      ∧ middle.cache.triggers.get? id = none := by
  obtain ⟨entered, known, -, held, -⟩ := tidy.paired.enter enters
  have begun := tidy.enter undecided enters
  have returns := within.returns begun.paired
  have reached := within.tidy begun
  exact ⟨reached, returns.known known, reached.coherent.bare (returns.held held)⟩

section Inputs

variable [Entity ε μ]

/-- An input takes a course, or it replaces the clock. -/
theorem course_take (interceptor : Interceptor ε μ) (state : State μ) (input : Input ε μ)
    : (∃ deeds ending, interceptor.Course state deeds ending (interceptor.take state input))
      ∨ ∃ clock, input = .operation (.setClock clock) := by
  have services := interceptor.take_servicesTo interceptor.nesting
  cases input with
  | event announcement =>
      exact Or.inl ⟨_, _, interceptor.takes_dispatchWith services announcement state⟩
  | operation operation =>
      cases operation with
      | find cls factory =>
          cases cls with
          | none => exact Or.inl ⟨_, .returned, .stays state _⟩
          | some cls =>
              rw [take, perform, Call.outcome_map]
              exact Or.inl ⟨_, _, interceptor.course_findWith services cls factory state⟩
      | evict key =>
          rw [take, perform, Call.outcome_map]
          exact Or.inl ⟨_, _, interceptor.course_evict key state⟩
      | clear => exact Or.inl ⟨_, _, .clears state⟩
      | setClock clock => exact Or.inr ⟨clock, rfl⟩
      | elsewhere readings memory => exact Or.inl ⟨_, _, .elsewhere state readings memory⟩

/-- An input leaves everything in order. -/
theorem Tidy.take {state : State μ} (tidy : interceptor.Tidy state) (input : Input ε μ)
    : interceptor.Tidy (interceptor.take state input) := by
  rcases interceptor.course_take state input with ⟨deeds, ending, course⟩ | ⟨clock, rfl⟩
  · exact course.tidy tidy
  · exact ⟨tidy.paired.frame rfl rfl, .clear { state with clock }⟩

theorem Tidy.takeAll {state : State μ} (tidy : interceptor.Tidy state)
    (inputs : List (Input ε μ))
    : interceptor.Tidy (interceptor.takeAll state inputs) := by
  induction inputs generalizing state with
  | nil => exact tidy
  | cons input rest ih => exact ih (tidy.take input)

/-- The states in which an interceptor may be called: a new one, what inputs lead to, and what is
reached inside of those, when a check is about to be made, and after what a script has done so far.
-/
inductive Reachable (interceptor : Interceptor ε μ) : State μ → Prop where
  | initial (clock : Clock) (memory : μ) : interceptor.Reachable (.initial clock memory)
  | input {state : State μ} (before : interceptor.Reachable state) (input : Input ε μ)
    : interceptor.Reachable (interceptor.take state input)
  | check {state : State μ} {id : TypeId} {lock : LockId} {taken : Cache}
    (before : interceptor.Reachable state) (undecided : state.cache.decided? id = none)
    (enters : state.cache.enter? id = some (lock, taken))
    : interceptor.Reachable { state with cache := taken.countCheck }
  | script {state : State μ} {own α : Type} (before : interceptor.Reachable state) (depth : Nat)
    (script : Script ε μ own α) (mine : own)
    : interceptor.Reachable
        ((script.run (interceptor.servicesTo depth)).outcome (mine, state)).2.2

/-- Everything is in order wherever an interceptor may be called. -/
theorem Reachable.tidy {state : State μ} (reachable : interceptor.Reachable state)
    : interceptor.Tidy state := by
  induction reachable with
  | initial clock memory => exact ⟨Cache.paired_empty, .initial clock memory⟩
  | input before input ih => exact ih.take input
  | check before undecided enters ih => exact ih.enter undecided enters
  | script before depth script mine ih =>
      exact (Call.Takes.run (interceptor.take_servicesTo depth) script mine _).tidy ih

/-- The two tables of an interceptor agree, whatever was put to it and whatever its mapping and the
hooks do, however deep they call it back and even if they panic, and also while they do: a class has
a listener if and only if its trigger says so. The listener is filed under its own class, it is as
strict as the configuration says and has the clock of the interceptor, and no other class has it. So
there are as many listeners as triggers that say so, and no more than classes decided on.
-/
theorem coherent_of_reachable {state : State μ} (reachable : interceptor.Reachable state)
    : (∀ id,
        (∃ listener, state.cache.listeners.get? id = some listener)
        ↔ state.cache.triggers.get? id = some true)
      ∧ (∀ id listener,
          state.cache.listeners.get? id = some listener
          → listener.cls.id = id
            ∧ listener.failOnError
              = (interceptor.config.failOnError
                || interceptor.config.packages.any listener.cls.isBelow)
            ∧ listener.clock = state.clock)
      ∧ (∀ id other listener another,
          state.cache.listeners.get? id = some listener
          → state.cache.listeners.get? other = some another
          → listener.serial = another.serial
          → id = other)
      ∧ state.cache.stats.cachedListeners = state.cache.triggers.entries.countP Prod.snd
      ∧ state.cache.stats.cachedListeners ≤ state.cache.stats.cachedClasses := by
  obtain ⟨-, coherent⟩ := reachable.tidy
  have mapped
      : state.cache.stats.cachedListeners = state.cache.triggers.entries.countP Prod.snd := by
    have same
        : state.cache.listeners.ids.Perm
            (state.cache.triggers.ids.filter
              (fun number => (state.cache.triggers.get? number).any id)) := by
      refine (List.perm_ext_iff_of_nodup (Table.nodup_ids _) ((Table.nodup_ids _).filter _)).mpr ?_
      intro number
      rw [List.mem_filter, Table.mem_ids_iff, Table.mem_ids_iff, Option.isSome_iff_exists]
      constructor
      · rintro ⟨listener, found⟩
        have flagged : state.cache.triggers.get? number = some true := coherent.flagged found
        rw [flagged]
        exact ⟨rfl, rfl⟩
      · rintro ⟨-, flagged⟩
        rcases flag : state.cache.triggers.get? number with _ | _ | _
        · simp [flag] at flagged
        · simp [flag] at flagged
        · exact coherent.listed flag
    rw [Cache.stats, ← Table.length_ids, same.length_eq, ← Table.countP_entries]
    rfl
  refine ⟨fun id => ⟨?_, coherent.listed⟩, ?_, fun _ _ _ _ => coherent.apart, mapped, ?_⟩
  · rintro ⟨listener, found⟩
    exact coherent.flagged found
  · intro id listener found
    obtain ⟨filed, made, -⟩ := coherent.made found
    exact ⟨filed, congrArg Listener.failOnError made, congrArg Listener.clock made⟩
  · rw [mapped]
    exact List.countP_le_length

end Inputs

end Interceptor

namespace Scenario

/-- Orders belong to one session factory each. -/
def orders : EntityClass := ⟨⟨7, "shop::Order"⟩, false⟩

/-- The interceptor of a market. Checks of its orders look for the listener of customers, and then
for that of items; checks of items panic.
-/
def market : Interceptor (ScriptedEntity Unit) Memory where
  home := ⟨0, "main"⟩
  config := default
  mapping cls :=
    match cls.id with
    | 7 =>
        .find ⟨⟨8, "shop::Customer"⟩, false⟩ none
          (fun _ => .find ⟨⟨9, "shop::Item"⟩, false⟩ none (fun _ => .done true))
    | 9 => .panic
    | _ => .done true
  nesting := 2

/-- A new market that is about to ask its mapping about orders. -/
def asking : State Memory :=
  { State.initial (.fixed 0 0) Memory.empty with
    cache := ((Cache.empty.enter? orders.id).elim .empty Prod.snd).countCheck }

/-- The check of orders when it has looked for the listener of customers. -/
def looked : State Memory :=
  (((.find ⟨⟨8, "shop::Customer"⟩, false⟩ none (fun _ => .done true)
    : Script (ScriptedEntity Unit) Memory Unit Bool).run (market.servicesTo 1)).outcome
    ((), asking)).2.2

/-- In the midst of a check of orders, customers have a listener and a trigger that says so, while
orders are held.
-/
theorem coherent_of_reachable_market
    : market.Reachable looked
      ∧ looked.cache.isHeld orders.id = true
      ∧ looked.cache.triggers.get? 8 = some true
      ∧ looked.cache.stats.cachedListeners = 1 := by
  have checks : market.Reachable asking := .check (.initial (.fixed 0 0) Memory.empty) rfl rfl
  have reachable : market.Reachable looked := checks.script 1 _ ()
  obtain ⟨flags, -, -, counts, -⟩ := Interceptor.coherent_of_reachable reachable
  refine ⟨reachable, rfl, (flags 8).mp ⟨_, rfl⟩, ?_⟩
  rw [counts]
  rfl

end Scenario

end Lifecycle
