import Lifecycle.Proofs.Concurrent.Freshness
import Lifecycle.Proofs.Concurrent.Settlement
import Mathlib.Data.List.Permutation

/-! Evictions that are not undone. Once the eviction of a class has come back, whatever the cache
goes on to say of the class was decided by a call that took the lock of the class after the eviction
had begun: either the eviction has waited for all earlier ones, or there were none, since the class
had no lock.
-/

namespace Lifecycle.Concurrent.Machine

variable {ground : Ground} {tick : Tick} {id : TypeId} {machine next : Machine} {ledger : Ledger}
  {thread : ThreadId} {moment place : Nat} {decided : Nat → Bool → Prop}
  {since after : ThreadId → Nat → Prop} {bound : Nat} {key : ClassKey}

-----------------------------------------------------------------------------------------
-- From one step of an eviction to the next
-----------------------------------------------------------------------------------------

/-- What the eviction of a class has done by the time it comes to a point. If it found no lock the
class has been new from then on; otherwise it is rid of the listener first, and of all that is old
once it has dropped the trigger too.
-/
def Purges (machine : Machine) (ledger : Ledger) (id : TypeId) (decided : Nat → Bool → Prop)
    (since : ThreadId → Nat → Prop) (bound : Nat) : EvictPoint → Prop
  | .lookLock | .acquire _ | .dropListener (some _) => True
  | .dropTrigger (some _) _ => machine.shared.cache.listeners.get? id = none
  | .dropListener none | .dropTrigger none _ | .release _ _ =>
      machine.Fresh ledger id decided since bound

/-- The step of an eviction that holds the lock of the class leaves nobody at work on the class. -/
theorem Ordered.not_resolving (ordered : machine.Ordered) {point : EvictPoint} {lock : LockId}
    (busy : machine.activity? thread = some (.evict key point))
    (held : point.held? = some lock) (other : ThreadId)
    : ¬ machine.Resolving other key.id := by
  rintro ⟨activity, under, works⟩
  obtain ⟨cls, factory, lock', stage, rfl, same⟩ := works.eq_inside
  have knows : point.lock? = some lock := by
    cases point <;> first | exact held | cases held
  have known := ordered.knows busy lock knows
  have known' := ordered.knows under lock' rfl
  rw [same, known] at known'
  obtain rfl := Option.some.inj known'
  have mine := (ordered.owner_iff lock thread).mpr (by rw [busy]; exact held)
  have other := (ordered.owner_iff lock other).mpr (by rw [under]; rfl)
  obtain rfl := Option.some.inj (mine.symm.trans other)
  cases busy.symm.trans under

/-- The step of an eviction purges the class further, and once it comes back the class is fresh. -/
theorem Purges.step {point : EvictPoint} {progress : Progress Activity} {noted : Ledger}
    (purges : machine.Purges ledger key.id decided since bound point) (ordered : machine.Ordered)
    (guarded : machine.Guarded) (moved : Moves ground tick machine next)
    (keeps
      : machine.Fresh ledger key.id decided since bound
        → next.Fresh noted key.id decided after bound)
    (goes : (Activity.evict key point).Goes ground tick machine.shared next.shared progress)
    (view : next.activity? tick.thread = progress.next?)
    : (∀ later,
        progress.next? = some later
        → ∃ point,
            later = .evict key point ∧ next.Purges noted key.id decided after bound point)
      ∧ ∀ reply,
          progress = .finish reply
          → next.Fresh noted key.id decided after bound := by
  have nextOrdered : next.Ordered := ordered.move moved
  obtain ⟨shared, threads⟩ := next
  cases goes with
  | evict goes =>
      cases goes with
      | finds | acquires =>
          refine ⟨fun later leads => ?_, fun _ ends => nomatch ends⟩
          cases leads
          exact ⟨_, rfl, trivial⟩
      | misses absent =>
          refine ⟨fun later leads => ?_, fun _ ends => nomatch ends⟩
          cases leads
          obtain ⟨vacant, silent⟩ := guarded key.id absent
          refine ⟨_, rfl, .of_absent vacant silent ?_⟩
          -- Whoever is at work on the class has its lock, and the class has none.
          rintro thread ⟨activity, under, works⟩
          obtain ⟨cls, factory, lock, stage, rfl, same⟩ := works.eq_inside
          have known := nextOrdered.knows under lock rfl
          rw [same] at known
          cases absent.symm.trans known
      | dropsListener held =>
          refine ⟨fun later leads => ?_, fun _ ends => nomatch ends⟩
          cases leads
          refine ⟨_, rfl, ?_⟩
          cases held with
          | none => exact keeps purges
          | some lock => exact (Table.get?_erase ..).trans (if_pos rfl)
      | dropsTrigger lock dropped =>
          refine ⟨fun later leads => ?_, fun _ ends => nomatch ends⟩
          cases leads
          refine ⟨_, rfl, .of_absent purges ((Table.get?_erase ..).trans (if_pos rfl)) ?_⟩
          exact nextOrdered.not_resolving view rfl
      | finishes | returns =>
          exact ⟨fun later leads => (nomatch leads), fun _ _ => keeps purges⟩

/-- What an eviction has done so far is not undone by others. -/
theorem Purges.others {point : EvictPoint} {noted : Ledger}
    (purges : machine.Purges ledger key.id decided since bound point) (ordered : machine.Ordered)
    (moved : Moves ground tick machine next)
    (busy : machine.activity? thread = some (.evict key point))
    (keeps
      : machine.Fresh ledger key.id decided since bound
        → next.Fresh noted key.id decided after bound)
    : next.Purges noted key.id decided after bound point := by
  match point, purges, busy with
  | .lookLock, _, _ | .acquire _, _, _ | .dropListener (some _), _, _ => trivial
  | .dropListener none, fresh, _ | .dropTrigger none _, fresh, _ | .release _ _, fresh, _ =>
      exact keeps fresh
  | .dropTrigger (some lock) dropped, absent, busy =>
      have absent : machine.shared.cache.listeners.get? key.id = none := absent
      show next.shared.cache.listeners.get? key.id = none
      rcases moved.view with ⟨-, same, -⟩ | ⟨activity, progress, own, goes, -⟩
      · exact same ▸ absent
      · refine (goes.forgets (fun works => ?_)).absent absent
        exact ordered.not_resolving busy rfl tick.thread ⟨activity, own, works⟩

/-- What an eviction has done so far is done for good if the class stays fresh. -/
theorem Purges.imp {point : EvictPoint}
    (purges : machine.Purges ledger id decided since bound point)
    (keeps
      : machine.Fresh ledger id decided since bound
        → machine.Fresh ledger id decided after bound)
    : machine.Purges ledger id decided after bound point := by
  match point, purges with
  | .lookLock, _ | .acquire _, _ | .dropListener (some _), _ => trivial
  | .dropTrigger (some _) _, absent => exact absent
  | .dropListener none, fresh | .dropTrigger none _, fresh | .release _ _, fresh =>
      exact keeps fresh

/-- The eviction that a thread makes after so many other calls has purged its class as far as it has
come; if it has come back, the class is fresh.
-/
def PurgesAt (machine : Machine) (ledger : Ledger) (thread : ThreadId) (place : Nat)
    (key : ClassKey) (decided : Nat → Bool → Prop) (since : ThreadId → Nat → Prop) (bound : Nat)
    : Prop :=
  machine.CallAt thread place
    (fun activity =>
      ∃ point,
        activity = .evict key point ∧ machine.Purges ledger key.id decided since bound point)
    (fun _ => machine.Fresh ledger key.id decided since bound)

/-- A tick takes an eviction a step on, or keeps what it has done. -/
theorem PurgesAt.onward (purges : machine.PurgesAt ledger thread place key decided since bound)
    (ordered : machine.Ordered) (guarded : machine.Guarded)
    (minds
      : Minds ground tick machine ((machine.step? ground tick).getD machine) key.id moment decided
          since after)
    (numbered : bound ≤ machine.shared.cache.nextSerial)
    : ((machine.step? ground tick).getD machine).PurgesAt
        (ledger.record ground machine tick moment) thread place key decided after bound := by
  have keeps (fresh : machine.Fresh ledger key.id decided since bound) :=
    fresh.onward minds numbered
  cases stepped : machine.step? ground tick with
  | none =>
      rw [stepped, Ledger.record_of_held moment stepped] at keeps
      rw [Ledger.record_of_held moment stepped]
      refine purges.imp ?_ (fun _ fresh => keeps fresh)
      rintro _ ⟨point, rfl, purges⟩
      exact ⟨point, rfl, purges.imp keeps⟩
  | some next =>
      rw [stepped] at keeps
      have moved := moves_of_step? stepped
      refine purges.move moved ?_ ?_ ?_
      · rintro _ apart busy ⟨point, rfl, purges⟩
        exact ⟨point, rfl, purges.others ordered moved busy keeps⟩
      · rintro _ progress mine - busy ⟨point, rfl, purges⟩ goes view
        exact purges.step ordered guarded moved keeps goes (mine ▸ view)
      · exact fun _ _ fresh => keeps fresh

/-- The call to find a listener that a thread makes after so many other calls has come only to what
has been decided, and if it has come back, that is what it has answered.
-/
def RestsAt (machine : Machine) (ledger : Ledger) (thread : ThreadId) (place : Nat)
    (cls : EntityClass) (factory : Option SessionFactory) (decided : Nat → Bool → Prop)
    (bound : Nat)
    : Prop :=
  machine.CallAt thread place
    (fun activity =>
      ∃ point, activity = .find cls factory point ∧ point.Rests ledger thread decided bound)
    (fun entry =>
      ∀ answer,
        entry.2 = .found answer
        → Ledger.Backs decided bound (ledger.reply thread place) answer)

/-- A tick takes a call for a fresh class a step on, or leaves it as it is. -/
theorem RestsAt.onward {cls : EntityClass} {factory : Option SessionFactory}
    (rests : machine.RestsAt ledger thread place cls factory decided bound)
    (fresh : machine.Fresh ledger cls.id decided since bound)
    (minds
      : Minds ground tick machine ((machine.step? ground tick).getD machine) cls.id moment decided
          since after)
    (numbered : bound ≤ machine.shared.cache.nextSerial)
    : ((machine.step? ground tick).getD machine).RestsAt
        (ledger.record ground machine tick moment) thread place cls factory decided bound := by
  cases stepped : machine.step? ground tick with
  | none =>
      rw [Ledger.record_of_held moment stepped]
      exact rests
  | some next =>
      rw [stepped] at minds
      refine rests.move (moves_of_step? stepped) ?_ ?_ ?_
      · rintro _ apart busy ⟨point, rfl, rests⟩
        refine ⟨point, rfl, rests.of_answer ?_⟩
        unfold Ledger.record
        split
        · exact (Ledger.note_of_ne (Ne.symm apart)).2.1
        · rfl
      · rintro _ progress mine count busy ⟨point, rfl, rests⟩ goes view
        rw [← mine] at count busy rests ⊢
        rw [← count]
        obtain ⟨leads, ends⟩ := fresh.step_of_find minds rests numbered stepped busy goes
        refine ⟨leads, fun reply ended answer found => ends answer ?_⟩
        rw [ended, ← found]
      · intro entry back holds answer found
        rw [Ledger.record_reply back]
        exact holds answer found

-----------------------------------------------------------------------------------------
-- What every schedule comes to
-----------------------------------------------------------------------------------------

/-- What every tick keeps, of the machine and the ledger beside it at the time, holds after every
schedule.
-/
theorem ledger_induction (kept : Nat → Machine → Ledger → Prop) {before rest : List Tick}
    (start : kept before.length (machine.run ground before) (machine.ledger ground before))
    (keeps
      : ∀ middle tick later,
          middle ++ tick :: later = rest
          → let now := (before ++ middle).length
            let reached := machine.run ground (before ++ middle)
            let ledger := machine.ledger ground (before ++ middle)
            kept now reached ledger
            → kept (now + 1) ((reached.step? ground tick).getD reached)
                (ledger.record ground reached tick now))
    : kept (before ++ rest).length (machine.run ground (before ++ rest))
        (machine.ledger ground (before ++ rest)) := by
  have follows (later middle : List Tick) (split : middle ++ later = rest)
      (holds
        : kept (before ++ middle).length (machine.run ground (before ++ middle))
            (machine.ledger ground (before ++ middle)))
      : kept (before ++ rest).length (machine.run ground (before ++ rest))
          (machine.ledger ground (before ++ rest)) := by
    induction later generalizing middle with
    | nil =>
        rw [← split, List.append_nil]
        exact holds
    | cons tick later ih =>
        refine ih (middle ++ [tick]) (by rw [← split]; simp) ?_
        rw [← List.append_assoc, ledger_concat, run_append _ (before ++ middle), run_cons,
          List.length_append]
        exact keeps middle tick later split holds
  exact follows rest [] rfl (by simpa using start)

/-- The thread takes the lock of the class by the tick at one moment, to find its listener, and has
it until another.
-/
structure Works (ground : Ground) (machine : Machine) (schedule : List Tick) (thread : ThreadId)
    (id : TypeId) (came now : Nat) : Prop where
  acts : ∃ tick, schedule[came]? = some tick ∧ tick.thread = thread
  elsewhere : ¬ (machine.run ground (schedule.take came)).Resolving thread id
  earlier : came < now
  during
    : ∀ between,
        came < between
        → between ≤ now
        → (machine.run ground (schedule.take between)).Resolving thread id

/-- The call that takes the lock of the class at the moment, to find its listener, decides whether
there is one before it gives the lock back.
-/
def Decides (ground : Ground) (machine : Machine) (schedule : List Tick) (id : TypeId)
    (moment : Nat) (eligible : Bool) : Prop :=
  ∃ tick later cls factory lock,
    schedule[later]? = some tick
    ∧ machine.Works ground schedule tick.thread id moment later
    ∧ (machine.run ground (schedule.take later)).activity? tick.thread
      = some (.find cls factory (.inside lock .consult))
    ∧ cls.id = id
    ∧ tick.eligible? ground cls factory = some eligible

section After

variable {before rest whole : List Tick} {began : Nat}

/-- The decisions of a schedule of which the calls took the lock after so many ticks. -/
def After (ground : Ground) (machine : Machine) (schedule : List Tick) (id : TypeId) (began : Nat)
    (moment : Nat) (eligible : Bool) : Prop :=
  began < moment ∧ machine.Decides ground schedule id moment eligible

/-- The calls of a schedule that are at work after so many ticks. They took the lock after so many
others.
-/
def Since (ground : Ground) (machine : Machine) (schedule : List Tick) (id : TypeId)
    (began now : Nat) (thread : ThreadId) (came : Nat) : Prop :=
  began < came ∧ machine.Works ground schedule thread id came now

/-- The ticks of a schedule are minded. -/
theorem minds_after (split : before ++ tick :: rest = whole) (past : began < before.length)
    : Minds ground tick (machine.run ground before)
        (((machine.run ground before).step? ground tick).getD (machine.run ground before)) id
        before.length (machine.After ground whole id began)
        (machine.Since ground whole id began before.length)
        (machine.Since ground whole id began (before.length + 1)) := by
  have ticks : whole[before.length]? = some tick := by simp [← split]
  have upTo : whole.take before.length = before := by simp [← split]
  have onward
      : machine.run ground (whole.take (before.length + 1))
        = ((machine.run ground before).step? ground tick).getD (machine.run ground before) := by
    have taken : whole.take (before.length + 1) = before ++ [tick] := by
      simp [← split, List.take_append, List.take_of_length_le]
    rw [taken, run_append]
    rfl
  constructor
  · intro elsewhere works
    refine ⟨past, ⟨tick, ticks, rfl⟩, by rwa [upTo], Nat.lt_succ_self _, ?_⟩
    intro between later upper
    obtain rfl : between = before.length + 1 := by omega
    rwa [onward]
  · intro thread came works
    rintro ⟨later, acts, elsewhere, earlier, during⟩
    refine ⟨later, acts, elsewhere, Nat.lt_succ_of_lt earlier, ?_⟩
    intro between after upper
    by_cases now : between = before.length + 1
    · rwa [now, onward]
    · exact during between after (by omega)
  · intro cls factory lock came eligible busy same answers
    rintro ⟨later, works⟩
    exact ⟨later, tick, before.length, cls, factory, lock, ticks, works, by rwa [upTo], same,
      answers⟩

end After

section Eviction

variable {requests : List (List Request)} {first rest whole : List Tick} {evicting : Tick}

/-- At any time after it has begun, an eviction has purged its class as far as it has come, of all
that was decided by calls that took the lock before.
-/
theorem purgesAt_run
    (evicts : ((Machine.initial requests).run ground first).Begins ground evicting (.evict key))
    (second : List Tick) (split : first ++ [evicting] ++ second ++ rest = whole)
    : let start := Machine.initial requests
      let before := start.run ground first
      let upTo := first ++ [evicting] ++ second
      (start.run ground upTo).PurgesAt (start.ledger ground upTo) evicting.thread
        (before.answered evicting.thread) key (start.After ground whole key.id first.length)
        (start.Since ground whole key.id first.length upTo.length)
        before.shared.cache.nextSerial := by
  intro start before upTo
  refine ledger_induction
    (fun now machine ledger =>
      machine.PurgesAt ledger evicting.thread (before.answered evicting.thread) key
        (start.After ground whole key.id first.length)
        (start.Since ground whole key.id first.length now) before.shared.cache.nextSerial)
    ?_ ?_
  · rw [run_append]
    refine (evicts.callAt (fun _ => False)).imp ?_ (fun _ none => none.elim)
    rintro _ rfl
    exact ⟨.lookLock, rfl, trivial⟩
  · intro middle tick later cut now reached ledger purges
    have onward : first ++ [evicting] ++ middle ++ tick :: (later ++ rest) = whole := by
      rw [← split, ← cut]
      simp
    have since : first.length < now := by
      simp only [now, List.length_append, List.length_singleton]
      omega
    have numbered : before.shared.cache.nextSerial ≤ reached.shared.cache.nextSerial := by
      show _ ≤ (start.run ground (first ++ [evicting] ++ middle)).shared.cache.nextSerial
      rw [List.append_assoc]
      exact nextSerial_le_run requests first ([evicting] ++ middle)
    exact purges.onward (.run requests _) (.run requests _) (minds_after onward since) numbered

/-- While a class is fresh it stays so, and a call that begins in the meantime has come only to what
was decided by calls that took the lock late enough.
-/
theorem restsAt_run {before : List Tick} {asking : Tick} {cls : EntityClass}
    {factory : Option SessionFactory} {began : Nat}
    (fresh
      : ((Machine.initial requests).run ground before).Fresh
          ((Machine.initial requests).ledger ground before) cls.id
          ((Machine.initial requests).After ground whole cls.id began)
          ((Machine.initial requests).Since ground whole cls.id began before.length) bound)
    (past : began < before.length)
    (numbered : bound ≤ ((Machine.initial requests).run ground before).shared.cache.nextSerial)
    (asks : ((Machine.initial requests).run ground before).Begins ground asking (.find cls factory))
    (third : List Tick) (split : before ++ [asking] ++ third ++ rest = whole)
    : let start := Machine.initial requests
      let upTo := before ++ [asking] ++ third
      (start.run ground upTo).Fresh (start.ledger ground upTo) cls.id
        (start.After ground whole cls.id began)
        (start.Since ground whole cls.id began upTo.length) bound
      ∧ (start.run ground upTo).RestsAt (start.ledger ground upTo) asking.thread
          ((start.run ground before).answered asking.thread) cls factory
          (start.After ground whole cls.id began) bound := by
  intro start upTo
  refine ledger_induction
    (fun now machine ledger =>
      machine.Fresh ledger cls.id (start.After ground whole cls.id began)
        (start.Since ground whole cls.id began now) bound
      ∧ machine.RestsAt ledger asking.thread ((start.run ground before).answered asking.thread) cls
          factory (start.After ground whole cls.id began) bound)
    ?_ ?_
  · have onward : before ++ asking :: (third ++ rest) = whole := by
      rw [← split]
      simp
    rw [run_append, ledger_concat, List.length_append]
    refine ⟨fresh.onward (minds_after onward past) numbered, ?_⟩
    refine (asks.callAt (fun _ => False)).imp ?_ (fun _ none => none.elim)
    rintro _ rfl
    exact ⟨.lookListener, rfl, trivial⟩
  · intro middle tick later cut now reached ledger
    rintro ⟨fresh, rests⟩
    have onward : before ++ [asking] ++ middle ++ tick :: (later ++ rest) = whole := by
      rw [← split, ← cut]
      simp
    have past : began < now := by
      simp only [now, List.length_append, List.length_singleton]
      omega
    have numbered : bound ≤ reached.shared.cache.nextSerial := by
      show _ ≤ (start.run ground (before ++ [asking] ++ middle)).shared.cache.nextSerial
      rw [List.append_assoc]
      exact Nat.le_trans numbered (nextSerial_le_run requests before ([asking] ++ middle))
    have minds
        : Minds ground tick reached ((reached.step? ground tick).getD reached) cls.id now
            (start.After ground whole cls.id began) (start.Since ground whole cls.id began now)
            (start.Since ground whole cls.id began (now + 1)) :=
      minds_after onward past
    exact ⟨fresh.onward minds numbered, rests.onward fresh minds numbered⟩

/-- An eviction that has come back is not undone by what is older than it. If a call to find the
listener of the class begins after that, its answer rests on a decision of a call that took the lock
of the class after the eviction had begun: whether that call found the class eligible is whether a
listener is answered. A listener that is answered was built after that too.
-/
theorem eviction_lasts (ground : Ground) (requests : List (List Request))
    (first second third : List Tick) (evicting asking : Tick) (key : ClassKey) (cls : EntityClass)
    (factory : Option SessionFactory) (entry : Request × Reply) (answer : Option Listener)
    (same : cls.id = key.id)
    (evicts : ((Machine.initial requests).run ground first).Begins ground evicting (.evict key))
    (evicted
      : ((Machine.initial requests).run ground (first ++ [evicting] ++ second)).reply?
          evicting.thread (((Machine.initial requests).run ground first).answered evicting.thread)
        = some entry)
    (asks
      : ((Machine.initial requests).run ground (first ++ [evicting] ++ second)).Begins ground
          asking (.find cls factory))
    : let before := (Machine.initial requests).run ground first
      let place := ((Machine.initial requests).run ground
        (first ++ [evicting] ++ second)).answered asking.thread
      let whole := first ++ [evicting] ++ second ++ [asking] ++ third
      let moment := ((Machine.initial requests).ledger ground whole).reply asking.thread place
      ((Machine.initial requests).run ground whole).reply? asking.thread place
        = some (.find cls factory, .found answer)
      → first.length < moment
        ∧ (Machine.initial requests).Decides ground whole key.id moment answer.isSome
        ∧ ∀ listener,
            answer = some listener → before.shared.cache.nextSerial ≤ listener.serial := by
  intro before place whole moment answered
  have numbered
      : before.shared.cache.nextSerial
        ≤ ((Machine.initial requests).run ground
            (first ++ [evicting] ++ second)).shared.cache.nextSerial := by
    rw [List.append_assoc]
    exact nextSerial_le_run requests first ([evicting] ++ second)
  have fresh
      : ((Machine.initial requests).run ground (first ++ [evicting] ++ second)).Fresh
          ((Machine.initial requests).ledger ground (first ++ [evicting] ++ second)) cls.id
          ((Machine.initial requests).After ground whole cls.id first.length)
          ((Machine.initial requests).Since ground whole cls.id first.length
            (first ++ [evicting] ++ second).length) before.shared.cache.nextSerial := by
    have split : first ++ [evicting] ++ second ++ (asking :: third) = whole := by simp [whole]
    rw [same]
    rcases purgesAt_run evicts second split with ⟨count, -⟩ | ⟨_, -, fresh⟩
    · exact absurd count (Nat.ne_of_gt (lt_answered_of_reply? evicted))
    · exact fresh
  have past : first.length < (first ++ [evicting] ++ second).length := by simp
  have split : first ++ [evicting] ++ second ++ [asking] ++ third ++ [] = whole := by simp [whole]
  obtain ⟨-, rests⟩ := restsAt_run fresh past numbered asks third split
  rcases rests with ⟨count, -⟩ | ⟨entry, replied, backs⟩
  · exact absurd count (Nat.ne_of_gt (lt_answered_of_reply? answered))
  · obtain rfl := Option.some.inj (answered.symm.trans replied)
    obtain ⟨⟨later, decides⟩, serials⟩ := backs answer rfl
    exact ⟨later, same ▸ decides, serials⟩

end Eviction

/-- The calls of three threads for one class, which the second evicts. -/
def contended : List (List Request) :=
  [[.find ⟨⟨7, "shop::Order"⟩, false⟩ none, .find ⟨⟨7, "shop::Order"⟩, false⟩ none],
    [.evict ⟨7, "shop::Order"⟩], [.find ⟨⟨7, "shop::Order"⟩, false⟩ none]]

/-- An eviction that begins while a thread has the lock of the class, and that has to wait for it.
Whoever asks for the class after that is given a listener that is new, not the one that was there.
-/
theorem eviction_lasts_contended
    : let ground : Ground := ⟨⟨⟨0, "main"⟩, default⟩, .fixed 0 0⟩
      let tick := Tick.steady (fun _ => true)
      let first := (List.replicate 4 0 ++ List.replicate 12 2 ++ [0]).map tick
      let second := [1, 1, 0, 0, 1, 1, 1, 1].map tick
      let third := (List.replicate 11 0).map tick
      let whole := first ++ [tick 1] ++ second ++ [tick 0] ++ third
      ∃ moment,
        first.length < moment
        ∧ (Machine.initial contended).Decides ground whole 7 moment true
        ∧ ((Machine.initial contended).run ground first).shared.cache.nextSerial ≤ 1 := by
  intro ground tick first second third whole
  obtain ⟨later, decides, serials⟩ :=
    eviction_lasts ground contended first second third (tick 1) (tick 0) ⟨7, "shop::Order"⟩
      ⟨⟨7, "shop::Order"⟩, false⟩ none (.evict ⟨7, "shop::Order"⟩, .evicted true)
      (some ⟨1, ⟨⟨7, "shop::Order"⟩, false⟩, false, .fixed 0 0⟩) rfl ⟨by cbv, by cbv⟩ (by cbv)
      ⟨by cbv, by cbv⟩ (by cbv)
  exact ⟨_, later, decides, serials _ rfl⟩

end Lifecycle.Concurrent.Machine
