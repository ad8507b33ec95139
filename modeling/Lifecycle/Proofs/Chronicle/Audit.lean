import Lifecycle.Proofs.Chronicle.Stamping

/-! The audit stamps of one entity. Events of the entity come between any other inputs; as long as
its hooks leave its stamps alone, only the events that stamp it change them, each by its own rule.
-/

namespace Lifecycle

/-- The readings of a clock never go backwards. -/
def Clock.Monotone (clock : Clock) : Prop :=
  ∀ earlier later, earlier ≤ later → clock.reading earlier ≤ clock.reading later

-----------------------------------------------------------------------------------------
-- The rules by which stamps are filled in
-----------------------------------------------------------------------------------------

namespace AuditStamps

/-- Both stamps are there, the entity was not updated before it was created, and neither stamp is
later than the given instant.
-/
def Ordered (stamps : AuditStamps) (latest : Instant) : Prop :=
  ∃ created updated,
    stamps = ⟨some created, some updated⟩ ∧ created ≤ updated ∧ updated ≤ latest

theorem Ordered.mono {stamps : AuditStamps} {latest later : Instant}
    (ordered : stamps.Ordered latest) (onward : latest ≤ later)
    : stamps.Ordered later := by
  obtain ⟨created, updated, same, before, past⟩ := ordered
  exact ⟨created, updated, same, before, Int.le_trans past onward⟩

/-- An insert puts the stamps in order, unless the entity was created later than now. -/
theorem ordered_inserted {now : Instant} {stamps : AuditStamps}
    (past : ∀ instant, stamps.created = some instant → instant ≤ now)
    : (stamps.inserted now).Ordered now := by
  obtain ⟨_ | created, updated⟩ := stamps
  · exact ⟨now, now, rfl, Int.le_refl now, Int.le_refl now⟩
  · exact ⟨created, now, rfl, past created rfl, Int.le_refl now⟩

end AuditStamps

namespace EventKind

variable {kind : EventKind} {change : Instant → AuditStamps → AuditStamps}

/-- No event stamps an entity so that its time of creation changes or a stamp is lost, and a save
only fills in what is missing.
-/
theorem stamping?_keeps (rule : kind.stamping? = some change) (now : Instant) (old : AuditStamps)
    : (∀ instant, old.created = some instant → (change now old).created = some instant)
      ∧ (old.updated.isSome → (change now old).updated.isSome)
      ∧ (kind = .saveOrUpdate
        → ∀ instant, old.updated = some instant → (change now old).updated = some instant) := by
  have filled (instant : Instant) {stamp : Option Instant} (set : stamp = some instant)
      : some (stamp.getD now) = some instant := by
    rw [set, Option.getD_some]
  cases kind with
  | pre write =>
      cases write with
      | insert =>
          cases rule
          exact ⟨fun instant => filled instant, fun _ => rfl, fun same => (nomatch same)⟩
      | update =>
          cases rule
          exact ⟨fun _ => id, fun _ => rfl, fun same => (nomatch same)⟩
      | delete => cases rule
  | saveOrUpdate =>
      cases rule
      exact ⟨fun instant => filled instant, fun _ => rfl, fun _ instant => filled instant⟩
  | post | preLoad | postLoad | validation => cases rule

/-- Stamps that are in order stay so when a later instant is filled in. -/
theorem stamping?_ordered (rule : kind.stamping? = some change) {latest now : Instant}
    {old : AuditStamps} (ordered : old.Ordered latest) (onward : latest ≤ now)
    : (change now old).Ordered now := by
  obtain ⟨created, updated, rfl, before, past⟩ := ordered
  have recent := Int.le_trans past onward
  cases kind with
  | pre write =>
      cases write with
      | insert | update =>
          cases rule
          exact ⟨created, now, rfl, Int.le_trans before recent, Int.le_refl now⟩
      | delete => cases rule
  | saveOrUpdate =>
      cases rule
      exact ⟨created, updated, rfl, before, recent⟩
  | post | preLoad | postLoad | validation => cases rule

end EventKind

/-- An event that stamps its entity is an insert, an update, or the save of an entity that the
session does not track yet.
-/
theorem Event.isStamping_cases {ε : Type} {event : Event ε} {decision : Decision}
    (stamping : event.isStamping decision = true)
    : event.kind = .pre .insert
      ∨ event.kind = .pre .update
      ∨ ∃ payload, event = .saveOrUpdate payload ∧ payload.origin.entry = none := by
  cases event with
  | pre write payload =>
      cases write with
      | insert => exact Or.inl rfl
      | update => exact Or.inr (Or.inl rfl)
      | delete => cases stamping
  | saveOrUpdate payload =>
      exact Or.inr (Or.inr ⟨payload, rfl, Option.isNone_iff_eq_none.mp stamping⟩)
  | post | preLoad | postLoad | validation => cases stamping

theorem Event.isStamping_map {ε δ : Type} (change : ε → δ) (event : Event ε) (decision : Decision)
    : (event.map change).isStamping decision = event.isStamping decision := by
  cases event with
  | pre write payload => cases write <;> rfl
  | saveOrUpdate | post | preLoad | postLoad | validation => rfl

-----------------------------------------------------------------------------------------
-- Watching an entity
-----------------------------------------------------------------------------------------

variable {ε μ : Type}

/-- What comes next while an entity is watched: an event of the entity, or any other input. -/
inductive Turn (ε μ : Type) where
  | own (announcement : Announcement Unit)
  | other (input : Input ε μ)

/-- What a turn puts to the interceptor. An event is about the entity as it is now. -/
def Turn.input (entity : ε) : Turn ε μ → Input ε μ
  | .own announcement => .event (announcement.map (fun _ => entity))
  | .other input => input

variable [Entity ε μ]

namespace Interceptor

/-- What a turn leaves of the entity, and of the interceptor. -/
def turn (interceptor : Interceptor ε μ) (start : ε × State μ) (turn : Turn ε μ) : ε × State μ :=
  let left :=
    match turn with
    | .own announcement =>
        (interceptor.dispatch.outcome
          (announcement.map (fun _ => start.1), start.2)).2.1.event.entity.getD start.1
    | .other _ => start.1
  (left, interceptor.take start.2 (turn.input start.1))

def turns (interceptor : Interceptor ε μ) (start : ε × State μ) (turns : List (Turn ε μ))
    : ε × State μ :=
  turns.foldl interceptor.turn start

/-- The hooks of some entities do not write the stamps. The stamps are in two fields, which such an
entity may or may not show, and its hooks leave both as they are, however they end.
-/
structure Spares (interceptor : Interceptor ε μ) (spares : ε → Prop) (fields : ε → AuditStamps)
    : Prop where
  shown
    : ∀ {entity old}, spares entity → Entity.stamps entity = some old → fields entity = old
  stamped
    : ∀ {entity old} new,
        spares entity
        → Entity.stamps entity = some old
        → spares (Entity.withStamps entity new) ∧ fields (Entity.withStamps entity new) = new
  hooked
    : ∀ {entity} (event : Event ε) (state : State μ),
        spares entity
        → let left :=
            (((event.callback entity).run interceptor.services).outcome (entity, state)).2.1
          spares left ∧ fields left = fields entity

variable {interceptor : Interceptor ε μ} {spares : ε → Prop} {fields : ε → AuditStamps}

omit [Entity ε μ] in
/-- An event of an entity carries that entity, if it carries any. -/
theorem entity_own {announcement : Announcement Unit} {entity carried : ε}
    (carries : (announcement.map (fun _ => entity)).event.entity = some carried)
    : carried = entity := by
  rw [Announcement.map, Event.entity_map] at carries
  obtain ⟨-, -, same⟩ := Option.map_eq_some_iff.mp carries
  exact same.symm

/-- An event of an entity that stamps it takes one reading of the clock. -/
theorem Spares.stamps (sparing : interceptor.Spares spares fields) {entity hooked : ε}
    {state reached : State μ} (tidy : interceptor.Tidy state) (kept : spares entity)
    {announcement : Announcement Unit}
    (due
      : interceptor.dueWith interceptor.services (announcement.map (fun _ => entity)) state
        = (some hooked, reached))
    : let next := interceptor.turn (entity, state) (.own announcement)
      spares next.1
      ∧ ∃ change decision,
          announcement.event.isStamping decision = true
          ∧ announcement.event.kind.stamping? = some change
          ∧ fields next.1
            = change (reached.clock.reading (reached.readings.count reached.clock)) (fields entity)
          ∧ next.2 = { reached with readings := (reached.readings.next reached.clock).2 } := by
  obtain ⟨change, old, rule, shown, -, leaves, final⟩ :=
    interceptor.stamps_of_due (interceptor.take_servicesTo interceptor.nesting)
      (interceptor.follow_servicesTo interceptor.nesting) tidy due
  rcases interceptor.dispatchWith_cases interceptor.services (announcement.map (fun _ => entity))
      state with ⟨left, unheard, -⟩ | ⟨carried, listener, middle, carries, -, -, attended⟩
  · cases due.symm.trans unheard
  · obtain rfl := entity_own carries
    obtain ⟨stamping, -⟩ := Prod.mk.inj (due.symm.trans attended)
    split at stamping
    · rename_i stamps
      cases stamping
      obtain ⟨spared, same⟩ :=
        sparing.hooked (announcement.map (fun _ => carried)).event middle kept
      obtain ⟨again, written⟩ := sparing.stamped
        (change (reached.clock.reading (reached.readings.count reached.clock)) old) spared shown
      have next
          : (interceptor.turn (carried, state) (.own announcement)).1
            = Entity.withStamps _
                (change (reached.clock.reading (reached.readings.count reached.clock)) old) :=
        congrArg (Option.getD · carried) leaves
      have before : old = fields carried := (sparing.shown spared shown).symm.trans same
      obtain ⟨decision, stamping⟩
          : ∃ decision, (announcement.event.map (fun _ => carried)).isStamping decision = true := by
        unfold Event.isDue at stamps
        split at stamps
        · exact ⟨_, ((Bool.and_eq_true _ _).mp stamps).1⟩
        · cases stamps
      rw [Event.isStamping_map] at stamping
      rw [Announcement.map, Event.kind_map] at rule
      rw [before] at again written next
      refine ⟨next ▸ again, change, decision, stamping, rule, ?_, final⟩
      rw [next, written]
    · cases stamping

/-- Any other event leaves the entity as its hook does. -/
theorem Spares.stays (sparing : interceptor.Spares spares fields) {entity : ε}
    {state reached : State μ} (kept : spares entity) {announcement : Announcement Unit}
    (due
      : interceptor.dueWith interceptor.services (announcement.map (fun _ => entity)) state
        = (none, reached))
    : spares (interceptor.turn (entity, state) (.own announcement)).1
      ∧ fields (interceptor.turn (entity, state) (.own announcement)).1 = fields entity := by
  rcases interceptor.dispatchWith_cases interceptor.services (announcement.map (fun _ => entity))
      state with ⟨left, -, stays⟩ | ⟨carried, listener, middle, carries, -, dispatched, attended⟩
  · have next : (interceptor.turn (entity, state) (.own announcement)).1 = entity := by
      refine (congrArg (fun left => left.1.event.entity.getD entity) stays).trans ?_
      rw [Announcement.map, Event.entity_map]
      cases announcement.event.entity <;> rfl
    rw [next]
    exact ⟨kept, rfl⟩
  · obtain rfl := entity_own carries
    obtain ⟨stamping, -⟩ := Prod.mk.inj (due.symm.trans attended)
    split at stamping
    · cases stamping
    · rename_i bare
      have left := listener.attend_of_not_isDue interceptor.services ((Bool.not_eq_true _).mp bare)
      have next
          : (interceptor.turn (carried, state) (.own announcement)).1
            = (((((announcement.map (fun _ => carried)).event).callback carried).run
                interceptor.services).outcome (carried, middle)).2.1 := by
        refine (congrArg (fun left => left.2.1.event.entity.getD carried) dispatched).trans ?_
        rw [Announcement.finish, Event.entity_map, carries]
        exact congrArg Prod.fst left
      rw [next]
      exact sparing.hooked _ middle kept

/-- What a turn does to the stamps of an entity whose hooks spare them: nothing, or it is an event
of the entity that stamps it with a reading of the clock.
-/
theorem Spares.turn (sparing : interceptor.Spares spares fields) {entity : ε} {state : State μ}
    (tidy : interceptor.Tidy state) (kept : spares entity) (turn : Turn ε μ)
    : spares (interceptor.turn (entity, state) turn).1
      ∧ (fields (interceptor.turn (entity, state) turn).1 = fields entity
        ∨ ∃ announcement hooked reached change decision,
            turn = .own announcement
            ∧ interceptor.dueWith interceptor.services (announcement.map (fun _ => entity)) state
              = (some hooked, reached)
            ∧ announcement.event.isStamping decision = true
            ∧ announcement.event.kind.stamping? = some change
            ∧ fields (interceptor.turn (entity, state) turn).1
              = change (reached.clock.reading (reached.readings.count reached.clock))
                  (fields entity)
            ∧ (interceptor.turn (entity, state) turn).2
              = { reached with readings := (reached.readings.next reached.clock).2 }) := by
  cases turn with
  | other input => exact ⟨kept, Or.inl rfl⟩
  | own announcement =>
      rcases due : interceptor.dueWith interceptor.services (announcement.map (fun _ => entity))
          state with ⟨_ | hooked, reached⟩
      · obtain ⟨spared, same⟩ := sparing.stays kept due
        exact ⟨spared, Or.inl same⟩
      · obtain ⟨spared, change, decision, stamping, rule, written, final⟩ :=
          sparing.stamps tidy kept due
        exact ⟨spared, Or.inr ⟨announcement, hooked, reached, change, decision, rfl, due, stamping,
          rule, written, final⟩⟩

/-- A turn neither replaces the clock by another one nor takes a reading of it back. -/
def Onward (clock : Clock) (state : State μ) : Turn ε μ → Prop
  | .other (.operation (.setClock other)) => other = clock
  | .other (.operation (.elsewhere readings _)) =>
      state.readings.count clock ≤ readings.count clock
  | _ => True

/-- No turn of a run replaces the clock by another one or takes a reading of it back. -/
def AllOnward (interceptor : Interceptor ε μ) (clock : Clock) (start : ε × State μ)
    : List (Turn ε μ) → Prop
  | [] => True
  | turn :: rest =>
      Onward clock start.2 turn
      ∧ interceptor.AllOnward clock (interceptor.turn start turn) rest

theorem Tidy.turn {start : ε × State μ} (tidy : interceptor.Tidy start.2) (turn : Turn ε μ)
    : interceptor.Tidy (interceptor.turn start turn).2 :=
  tidy.take _

/-- A turn that goes onward leaves the clock, and at least as many readings of it as before. -/
theorem onward_turn {start : ε × State μ} {turn : Turn ε μ} (tidy : interceptor.Tidy start.2)
    (onward : Onward start.2.clock start.2 turn)
    : (interceptor.turn start turn).2.clock = start.2.clock
      ∧ start.2.readings.count start.2.clock
        ≤ (interceptor.turn start turn).2.readings.count start.2.clock := by
  rcases interceptor.unfolds_take tidy (turn.input start.1)
    with unfolds | ⟨clock, replaces⟩ | ⟨readings, memory, elsewhere⟩
  · refine ⟨unfolds.clock_eq, ?_⟩
    exact Nat.le_trans (Nat.le_add_right _ _) (Nat.le_of_eq (unfolds.stamps_readings.taken _).symm)
  · cases turn with
    | own announcement => cases replaces
    | other input =>
        cases replaces
        exact ⟨onward, Nat.le_refl _⟩
  · cases turn with
    | own announcement => cases elsewhere
    | other input =>
        cases elsewhere
        exact ⟨rfl, onward⟩

/-- Until a stamp is due an event leaves the clock as it is, or with further readings taken. -/
theorem onward_due {announcement : Announcement ε} {state reached : State μ} {due : Option ε}
    (tidy : interceptor.Tidy state)
    (told : interceptor.dueWith interceptor.services announcement state = (due, reached))
    : reached.clock = state.clock
      ∧ state.readings.count state.clock ≤ reached.readings.count state.clock := by
  have leads := interceptor.follows_lead (interceptor.take_servicesTo interceptor.nesting)
    (interceptor.follow_servicesTo interceptor.nesting) announcement tidy
  have reads := leads.stamps_readings.taken state.clock
  rw [← services, told] at leads reads
  exact ⟨leads.clock_eq, Nat.le_trans (Nat.le_add_right _ _) (Nat.le_of_eq reads.symm)⟩

/-- The stamps of an entity are in order, and not later than the last reading of the clock. -/
structure UpToDate (fields : ε → AuditStamps) (now : ε × State μ) : Prop where
  read : 0 < now.2.readings.count now.2.clock
  ordered
    : (fields now.1).Ordered (now.2.clock.reading (now.2.readings.count now.2.clock - 1))

omit [Entity ε μ] in
/-- A stamp that is filled in is the last reading of the clock. -/
theorem UpToDate.of_stamp {now : ε × State μ} {reached : State μ}
    (final : now.2 = { reached with readings := (reached.readings.next reached.clock).2 })
    (ordered
      : (fields now.1).Ordered (reached.clock.reading (reached.readings.count reached.clock)))
    : UpToDate fields now := by
  have counts : now.2.readings.count now.2.clock = reached.readings.count reached.clock + 1 := by
    rw [final]
    exact (Readings.count_next ..).trans (if_pos rfl)
  constructor
  · rw [counts]
    exact Nat.succ_pos _
  · rw [counts, final]
    exact ordered

/-- Stamps that are in order stay so, if the clock does not go backwards. -/
theorem UpToDate.turn (sparing : interceptor.Spares spares fields) {start : ε × State μ}
    {turn : Turn ε μ} (tidy : interceptor.Tidy start.2) (kept : spares start.1)
    (monotone : start.2.clock.Monotone) (onward : Onward start.2.clock start.2 turn)
    (upToDate : UpToDate fields start)
    : UpToDate fields (interceptor.turn start turn) := by
  obtain ⟨entity, state⟩ := start
  obtain ⟨read, ordered⟩ := upToDate
  obtain ⟨spared, same | ⟨announcement, hooked, reached, change, decision, rfl, due, -, rule,
    written, final⟩⟩ := sparing.turn tidy kept turn
  · obtain ⟨clock, readings⟩ := interceptor.onward_turn tidy onward
    constructor
    · rw [clock]
      exact Nat.lt_of_lt_of_le read readings
    · rw [same, clock]
      exact ordered.mono (monotone _ _ (Nat.sub_le_sub_right readings 1))
  · obtain ⟨clock, readings⟩ := interceptor.onward_due tidy due
    refine .of_stamp final ?_
    rw [written]
    refine EventKind.stamping?_ordered rule ordered ?_
    rw [clock]
    exact monotone _ _ (Nat.le_trans (Nat.sub_le _ _) readings)

theorem UpToDate.turns (sparing : interceptor.Spares spares fields) {start : ε × State μ}
    {turns : List (Turn ε μ)} (tidy : interceptor.Tidy start.2) (kept : spares start.1)
    (monotone : start.2.clock.Monotone)
    (onward : interceptor.AllOnward start.2.clock start turns) (upToDate : UpToDate fields start)
    : UpToDate fields (interceptor.turns start turns) := by
  induction turns generalizing start with
  | nil => exact upToDate
  | cons turn rest ih =>
      obtain ⟨now, later⟩ := onward
      have same := (interceptor.onward_turn tidy now).1
      refine ih (tidy.turn turn) (sparing.turn tidy kept turn).1 (same.symm ▸ monotone) ?_
        (upToDate.turn sparing tidy kept monotone now)
      rw [same]
      exact later

/-- What a turn does to the stamps: neither is lost, the time of creation does not change, and if
anything changes at all the turn is an event that may stamp.
-/
structure Amends (turn : Turn ε μ) (before after : AuditStamps) : Prop where
  created : ∀ instant, before.created = some instant → after.created = some instant
  updated : before.updated.isSome → after.updated.isSome
  changed
    : after ≠ before
      → ∃ announcement,
          turn = .own announcement
          ∧ (announcement.event.kind = .pre .insert
            ∨ announcement.event.kind = .pre .update
            ∨ ∃ payload,
                announcement.event = .saveOrUpdate payload
                ∧ payload.origin.entry = none
                ∧ ∀ instant, before.updated = some instant → after.updated = some instant)

theorem Spares.amends (sparing : interceptor.Spares spares fields) {start : ε × State μ}
    (tidy : interceptor.Tidy start.2) (kept : spares start.1) (turn : Turn ε μ)
    : Amends turn (fields start.1) (fields (interceptor.turn start turn).1) := by
  obtain ⟨entity, state⟩ := start
  obtain ⟨-, same | ⟨announcement, hooked, reached, change, decision, rfl, -, stamping, rule,
    written, -⟩⟩ := sparing.turn tidy kept turn
  · rw [same]
    exact ⟨fun _ => id, id, fun differs => absurd rfl differs⟩
  · obtain ⟨created, updated, saved⟩ := EventKind.stamping?_keeps rule
      (reached.clock.reading (reached.readings.count reached.clock)) (fields entity)
    rw [written]
    refine ⟨created, updated, fun _ => ⟨announcement, rfl, ?_⟩⟩
    rcases Event.isStamping_cases stamping with insert | update | ⟨payload, saves, new⟩
    · exact Or.inl insert
    · exact Or.inr (Or.inl update)
    · refine Or.inr (Or.inr ⟨payload, saves, new, saved ?_⟩)
      rw [saves]
      rfl

/-- Whatever happens to an entity, its time of creation stays once it is set, and neither stamp is
lost.
-/
theorem Spares.turns (sparing : interceptor.Spares spares fields) {start : ε × State μ}
    (tidy : interceptor.Tidy start.2) (kept : spares start.1) (turns : List (Turn ε μ))
    : let last := interceptor.turns start turns
      interceptor.Tidy last.2
      ∧ spares last.1
      ∧ (∀ instant,
        (fields start.1).created = some instant → (fields last.1).created = some instant)
      ∧ ((fields start.1).updated.isSome → (fields last.1).updated.isSome) := by
  induction turns generalizing start with
  | nil => exact ⟨tidy, kept, fun _ => id, id⟩
  | cons turn rest ih =>
      obtain ⟨created, updated, -⟩ := sparing.amends tidy kept turn
      obtain ⟨tidies, spared, created', updated'⟩ :=
        ih (tidy.turn turn) (sparing.turn tidy kept turn).1
      exact ⟨tidies, spared, fun instant set => created' instant (created instant set),
        fun set => updated' (updated set)⟩

/-- The stamps of an entity over a run of its events and of any other inputs, if its hooks do not
write them. Once the time of creation is set nothing changes it, and a stamp that is set is never
lost; only inserts, updates and saves of an entity that the session does not track change a stamp at
all, and the last fill in nothing but what is missing. If the clock never goes backwards and stays
the clock, an insert that stamps the entity, unless it was created later than the reading that it
gets, puts its stamps in order, and so they stay: created, then updated, then the last reading of
the clock, whatever is vetoed, fails, is rejected or evicted and whatever is put to the interceptor
in between.
-/
theorem audit_stamps_stay_ordered {state : State μ} (reachable : interceptor.Reachable state)
    (sparing : interceptor.Spares spares fields) {entity : ε} (kept : spares entity)
    : (∀ earlier turn,
        let before := interceptor.turns (entity, state) earlier
        Amends turn (fields before.1) (fields (interceptor.turn before turn).1))
      ∧ (∀ earlier later,
        let before := interceptor.turns (entity, state) earlier
        let after := interceptor.turns before later
        (∀ instant,
          (fields before.1).created = some instant → (fields after.1).created = some instant)
        ∧ ((fields before.1).updated.isSome → (fields after.1).updated.isSome))
      ∧ ∀ earlier announcement later hooked reached,
          let before := interceptor.turns (entity, state) earlier
          let clock := before.2.clock
          let inserted := interceptor.turn before (.own announcement)
          clock.Monotone
          → announcement.event.kind = .pre .insert
          → interceptor.dueWith interceptor.services (announcement.map (fun _ => before.1)) before.2
            = (some hooked, reached)
          → (∀ instant,
              (fields before.1).created = some instant
              → instant ≤ clock.reading (reached.readings.count clock))
          → interceptor.AllOnward clock inserted later
          → let after := interceptor.turns inserted later
            let readings := after.2.readings.count after.2.clock
            ∃ created updated,
              fields after.1 = ⟨some created, some updated⟩
              ∧ created ≤ updated
              ∧ updated ≤ after.2.clock.reading (readings - 1) := by
  have begun : interceptor.Tidy (entity, state).2 := reachable.tidy
  refine ⟨?_, ?_, ?_⟩
  · intro earlier turn before
    obtain ⟨tidy, spared, -⟩ := sparing.turns begun kept earlier
    exact sparing.amends tidy spared turn
  · intro earlier later before after
    obtain ⟨tidy, spared, -⟩ := sparing.turns begun kept earlier
    exact (sparing.turns tidy spared later).2.2
  · intro earlier announcement later hooked reached before clock inserted monotone kind due past
      onward
    obtain ⟨tidy, spared, -⟩ := sparing.turns begun kept earlier
    obtain ⟨stamped, change, -, -, rule, written, final⟩ := sparing.stamps tidy spared due
    obtain ⟨same, -⟩ := interceptor.onward_due tidy due
    have insert : change = AuditStamps.inserted := by
      rw [kind] at rule
      exact (Option.some.inj rule).symm
    have upToDate : UpToDate fields inserted := by
      refine .of_stamp final ?_
      rw [written, insert, same]
      exact AuditStamps.ordered_inserted past
    have kept : inserted.2.clock = clock := (congrArg State.clock final).trans same
    rw [← kept] at monotone onward
    exact (upToDate.turns sparing (tidy.turn _) stamped monotone onward).ordered

end Interceptor

namespace Scenario

variable {ν : Type}

/-- No hook of an entity edits it. -/
def ScriptedEntity.Unedited (entity : ScriptedEntity ν) : Prop :=
  ∀ hook change, .edit change ∉ entity.hooks hook

/-- Actions that edit nothing leave the hooks and the stamps of an entity, whatever is answered to
their calls.
-/
theorem ScriptedEntity.perform_spares (services : Services (ScriptedEntity ν) Memory)
    {actions : List (Action ν)} (unedited : ∀ change, .edit change ∉ actions)
    (entity : ScriptedEntity ν) (state : State Memory)
    : let left := (((perform actions).run services).outcome (entity, state)).2.1
      left.hooks = entity.hooks ∧ left.recorded = entity.recorded := by
  induction actions generalizing entity state with
  | nil => exact ⟨rfl, rfl⟩
  | cons action rest ih =>
      have later : ∀ change, .edit change ∉ rest :=
        fun change member => unedited change (List.mem_cons_of_mem _ member)
      cases action with
      | veto | proceed | fail => exact ⟨rfl, rfl⟩
      | edit change => exact absurd (List.mem_cons_self ..) (unedited change)
      | note value => exact ih later (entity.remark [.noted value]) state
      | snapshot => exact ih later (entity.remark [.stamps entity.recorded]) state
      | callback call =>
          -- A call that stops ends the hook, and after one that answers a remark is made.
          cases call with
          | find type =>
              rw [perform, Callback.script, Script.run, Call.outcome_bind]
              simp only [Call.onSecond, Call.outcome_ofOutcome]
              rcases (services.find type.instanceClass none).outcome state
                with ⟨stop | found, reached⟩
              · exact ⟨rfl, rfl⟩
              · exact ih later (entity.remark _) _
          | evict type =>
              rw [perform, Callback.script, Script.run, Call.outcome_bind]
              simp only [Call.onSecond, Call.outcome_ofOutcome]
              rcases (services.evict type.key).outcome state with ⟨stop | dropped, reached⟩
              · exact ⟨rfl, rfl⟩
              · exact ih later (entity.remark _) _
          | clear =>
              rw [perform, Callback.script, Script.run, Call.outcome_bind]
              simp only [Call.onSecond, Call.outcome_ofOutcome]
              rcases services.clear.outcome state with ⟨stop | _, reached⟩
              · exact ⟨rfl, rfl⟩
              · exact ih later (entity.remark _) _

/-- The hooks of unedited entities spare the stamps. -/
theorem spares_of_unedited (interceptor : Interceptor (ScriptedEntity ν) Memory)
    : interceptor.Spares ScriptedEntity.Unedited ScriptedEntity.recorded := by
  constructor
  · intro entity old unedited shown
    simp only [Entity.stamps] at shown
    split at shown
    · exact Option.some.inj shown
    · cases shown
  · exact fun _ unedited _ => ⟨unedited, rfl⟩
  · intro entity event state unedited left
    have called (remarks : List (Remark ν)) (hook : Hook)
        : let left := (((entity.call remarks hook).run interceptor.services).outcome
            (entity, state)).2.1
          left.Unedited ∧ left.recorded = entity.recorded := by
      unfold ScriptedEntity.call
      split
      · exact ⟨unedited, rfl⟩
      · obtain ⟨hooks, recorded⟩ := ScriptedEntity.perform_spares interceptor.services
          (unedited hook) (entity.remark (remarks ++ [.called hook])) state
        exact ⟨fun other change member => unedited other change (hooks ▸ member), recorded⟩
    have told (notice : Notice)
        : let left := (((notice.callback entity).run interceptor.services).outcome
            (entity, state)).2.1
          left.Unedited ∧ left.recorded = entity.recorded := by
      simp only [Notice.callback, Entity.receive, Script.outcome_run_map]
      exact called _ notice.hook
    cases event with
    | pre write payload => exact called [] (.before write)
    | post write payload => exact told (.after write)
    | preLoad payload => exact told .beforeLoad
    | postLoad payload => exact told .afterLoad
    | saveOrUpdate payload => exact ⟨unedited, rfl⟩
    | validation payload => exact told (.beforeValidate payload.origin)

/-- A new order of the shop that does not let itself be deleted. -/
def lasting : ScriptedEntity Unit :=
  let type : EntityType := ⟨⟨7, "shop::Order"⟩, .fixed false, false⟩
  { ScriptedEntity.ofType type with
    hooks := fun hook => if hook = .before .delete then [.veto] else [] }

/-- A write of an order that is watched. -/
def writing (write : Write) : Announcement Unit :=
  .of (.pre write ⟨some (), ⟨"Order", shop.home⟩⟩)

/-- An order that is inserted, updated after an eviction, and almost deleted. -/
theorem audit_stamps_stay_ordered_shop
    : shop.Reachable (.initial (.ticking 0 100 5) .empty)
      ∧ shop.Spares ScriptedEntity.Unedited ScriptedEntity.recorded
      ∧ lasting.Unedited
      ∧ (let later :=
          [.own (writing .insert), .other (.operation (.evict ⟨7, "shop::Order"⟩)),
            .own (writing .update), .own (writing .delete)]
        let after := shop.turns (lasting, .initial (.ticking 0 100 5) .empty) later
        ∃ created updated,
          after.1.recorded = ⟨some created, some updated⟩
          ∧ created ≤ updated
          ∧ updated
            ≤ after.2.clock.reading (after.2.readings.count after.2.clock - 1)) := by
  have new : shop.Reachable (.initial (.ticking 0 100 5) .empty) := .initial _ _
  have unedited : lasting.Unedited := by
    intro hook change member
    simp only [lasting] at member
    split at member
    · cases List.mem_singleton.mp member
    · cases member
  have monotone : (Clock.ticking 0 100 5).Monotone := by
    intro earlier later onward
    show (100 : Int) + earlier * 5 ≤ 100 + later * 5
    omega
  obtain ⟨-, -, ordered⟩ :=
    Interceptor.audit_stamps_stay_ordered new (spares_of_unedited shop) unedited
  have stamps
      : (shop.dueWith shop.services ((writing .insert).map (fun _ => lasting))
          (.initial (.ticking 0 100 5) .empty)).1.isSome := by
    decide +kernel
  rcases due : shop.dueWith shop.services ((writing .insert).map (fun _ => lasting))
      (.initial (.ticking 0 100 5) .empty) with ⟨_ | hooked, reached⟩
  · rw [due] at stamps
    cases stamps
  · exact ⟨new, spares_of_unedited shop, unedited,
      ordered [] (writing .insert) _ hooked reached monotone rfl due (fun _ set => (nomatch set))
        ⟨trivial, trivial, trivial, trivial⟩⟩

end Scenario

end Lifecycle
