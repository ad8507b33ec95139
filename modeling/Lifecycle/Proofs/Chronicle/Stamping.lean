import Lifecycle.Proofs.Chronicle.Calls

/-! Which readings of the clocks become stamps. Each stamp takes the next reading of the clock that
the interceptor has when it is filled in, and nothing else that the interceptor does reads a clock.
-/

namespace Lifecycle

-----------------------------------------------------------------------------------------
-- Stampings and the readings that they take
-----------------------------------------------------------------------------------------

variable {ε μ : Type}

def Occurrence.stamping? : Occurrence ε → Option (Stamping ε)
  | .stamped stamping => some stamping
  | _ => none

/-- The stampings among what happened, in their order. -/
def stampings (happened : List (Occurrence ε)) : List (Stamping ε) :=
  happened.filterMap Occurrence.stamping?

theorem stampings_append (earlier later : List (Occurrence ε))
    : stampings (earlier ++ later) = stampings earlier ++ stampings later :=
  List.filterMap_append

variable [Entity ε μ]

/-- An entity is stamped with one reading of a clock, as the kind of the event demands. -/
def Stamping.Reads (stamping : Stamping ε) (clock : Clock) (number : Nat) : Prop :=
  ∃ change old,
    stamping.kind.stamping? = some change
    ∧ Entity.stamps stamping.hooked = some old
    ∧ stamping.left
      = some (Entity.withStamps stamping.hooked (change (clock.reading number) old))

/-- How many of the stampings are due to a clock. -/
def readingsOf (clock : Clock) (stamped : List (Clock × Stamping ε)) : Nat :=
  stamped.countP (fun entry => entry.1.id == clock.id)

/-- The readings of clocks that are taken become stamps one by one: each stamping takes the reading
of its clock that comes after those that were taken before, and no other reading is taken.
-/
structure Readings.Stamps (before : Readings) (stamped : List (Clock × Stamping ε))
    (after : Readings)
    : Prop where
  taken : ∀ clock, after.count clock = before.count clock + readingsOf clock stamped
  told
    : ∀ {number : Nat} {clock : Clock} {stamping : Stamping ε},
        stamped[number]? = some (clock, stamping)
        → stamping.Reads clock (before.count clock + readingsOf clock (stamped.take number))

namespace Readings.Stamps

variable {before middle after : Readings} {earlier later : List (Clock × Stamping ε)}

theorem refl (readings : Readings)
    : readings.Stamps ([] : List (Clock × Stamping ε)) readings :=
  ⟨fun _ => rfl, fun found => (nomatch found)⟩

theorem trans (first : before.Stamps earlier middle) (rest : middle.Stamps later after)
    : before.Stamps (earlier ++ later) after := by
  constructor
  · intro clock
    rw [rest.taken, first.taken, readingsOf, readingsOf, readingsOf, List.countP_append,
      Nat.add_assoc]
  · intro number clock stamping found
    rcases Nat.lt_or_ge number earlier.length with early | late
    · rw [List.getElem?_append_left early] at found
      rw [List.take_append_of_le_length (Nat.le_of_lt early)]
      exact first.told found
    · rw [List.getElem?_append_right late] at found
      have told := rest.told found
      rw [first.taken] at told
      rw [List.take_append, List.take_of_length_le late, readingsOf, List.countP_append,
        ← Nat.add_assoc]
      exact told

/-- One stamp takes one reading. -/
theorem next (readings : Readings) (clock : Clock) {stamping : Stamping ε}
    (reads : stamping.Reads clock (readings.count clock))
    : readings.Stamps [(clock, stamping)] (readings.next clock).2 := by
  constructor
  · intro other
    rw [count_next, readingsOf]
    by_cases same : other.id = clock.id
    · have counts : readings.count other = readings.count clock :=
        congrArg (fun id => (readings.taken.get? id).getD 0) same
      simp [same, counts]
    · have apart : ¬ clock.id = other.id := fun equal => same equal.symm
      simp [same, apart]
  · intro number other another found
    cases number with
    | zero =>
        cases found
        exact reads
    | succ number => cases found

end Readings.Stamps

namespace Interceptor

variable {interceptor : Interceptor ε μ}

/-- Whatever happens in the course of calls, the clock is read for stamps alone. -/
theorem Unfolds.stamps_readings {before reached : State μ} {happened : List (Occurrence ε)}
    {ending : Ending} (unfolds : interceptor.Unfolds before happened ending reached)
    : before.readings.Stamps ((stampings happened).map (before.clock, ·)) reached.readings := by
  induction unfolds with
  | append first rest ih ih' =>
      -- No call replaces the clock, so both parts count the readings of the same one.
      rw [first.clock_eq] at ih'
      rw [stampings_append, List.map_append]
      exact ih.trans ih'
  | @declines state cls factory lock cache undecided enters =>
      show state.readings.Stamps [] ((interceptor.settle cls false).outcome _).2.readings
      rw [readings_settle]
      exact .refl state.readings
  | @settles state middle cls factory lock cache within eligible undecided enters own asked ih =>
      have written
          : stampings (.sought cls factory :: .consulted cls :: within ++ [.answered cls eligible])
            = stampings within :=
        (stampings_append _ _).trans (List.append_nil _)
      show state.readings.Stamps _ ((interceptor.settle cls eligible).outcome middle).2.readings
      rw [written, readings_settle]
      exact ih
  | unwinds undecided enters asked ih | hangs undecided enters asked ih => exact ih
  | @stamps state kind hooked change old rule shown =>
      exact .next state.readings state.clock ⟨change, old, rule, shown, rfl⟩
  | stays state | remembers state | blocked state | evicts | clears state | calls state | hits =>
      exact .refl _

-----------------------------------------------------------------------------------------
-- Inputs and runs
-----------------------------------------------------------------------------------------

/-- The stampings of a run, each with the clock that the interceptor has when it happens. -/
def stamped (interceptor : Interceptor ε μ) (state : State μ)
    : List (Input ε μ) → List (Clock × Stamping ε)
  | [] => []
  | input :: rest =>
      (stampings (interceptor.inputChronicle state input)).map (state.clock, ·)
        ++ interceptor.stamped (interceptor.take state input) rest

/-- Nobody but the interceptor reads a clock in the course of a run. -/
def Undisturbed (interceptor : Interceptor ε μ) (state : State μ) : List (Input ε μ) → Prop
  | [] => True
  | input :: rest =>
      (∀ readings memory,
        input = .operation (.elsewhere readings memory) → readings = state.readings)
      ∧ interceptor.Undisturbed (interceptor.take state input) rest

/-- What the stampings of a run are, is told by its history. -/
theorem map_stamped (interceptor : Interceptor ε μ) (state : State μ) (inputs : List (Input ε μ))
    : (interceptor.stamped state inputs).map Prod.snd
      = stampings (interceptor.history state inputs) := by
  induction inputs generalizing state with
  | nil => rfl
  | cons input rest ih =>
      rw [stamped, history, stampings_append, List.map_append, List.map_map, ih]
      exact congrArg (· ++ _) (List.map_id _)

/-- An interceptor keeps its clock until it is given another one. -/
theorem clock_take {state : State μ} (tidy : interceptor.Tidy state) {input : Input ε μ}
    (keeps : ∀ clock, input ≠ .operation (.setClock clock))
    : (interceptor.take state input).clock = state.clock := by
  rcases interceptor.unfolds_take tidy input with unfolds | ⟨clock, rfl⟩ | ⟨readings, memory, rfl⟩
  · exact unfolds.clock_eq
  · exact absurd rfl (keeps clock)
  · rfl

/-- As long as an interceptor keeps its clock, all stampings are due to that clock. -/
theorem stamped_of_keeps {state : State μ} {inputs : List (Input ε μ)}
    (tidy : interceptor.Tidy state) (keeps : ∀ clock, .operation (.setClock clock) ∉ inputs)
    : interceptor.stamped state inputs
      = (stampings (interceptor.history state inputs)).map (state.clock, ·) := by
  induction inputs generalizing state with
  | nil => rfl
  | cons input rest ih =>
      have same : (interceptor.take state input).clock = state.clock := by
        refine interceptor.clock_take tidy (fun clock replaces => keeps clock ?_)
        exact replaces ▸ List.mem_cons_self ..
      rw [stamped, history, stampings_append, List.map_append,
        ih (tidy.take input) (fun clock later => keeps clock (List.mem_cons_of_mem _ later)), same]

theorem stamped_append (interceptor : Interceptor ε μ) (state : State μ)
    (first rest : List (Input ε μ))
    : interceptor.stamped state (first ++ rest)
      = interceptor.stamped state first
        ++ interceptor.stamped (interceptor.takeAll state first) rest := by
  induction first generalizing state with
  | nil => rfl
  | cons input others ih =>
      rw [List.cons_append, stamped, stamped, ih, List.append_assoc]
      rfl

/-- An input reads the clock of the interceptor for its stampings alone. -/
theorem stamps_take {state : State μ} (tidy : interceptor.Tidy state) {input : Input ε μ}
    (undisturbed
      : ∀ readings memory,
          input = .operation (.elsewhere readings memory) → readings = state.readings)
    : state.readings.Stamps
        ((stampings (interceptor.inputChronicle state input)).map (state.clock, ·))
        (interceptor.take state input).readings := by
  rcases interceptor.unfolds_take tidy input with unfolds | ⟨clock, rfl⟩ | ⟨readings, memory, rfl⟩
  · exact unfolds.stamps_readings
  · exact .refl state.readings
  · cases undisturbed readings memory rfl
    exact .refl state.readings

theorem stamps_takeAll {state : State μ} {inputs : List (Input ε μ)}
    (tidy : interceptor.Tidy state) (undisturbed : interceptor.Undisturbed state inputs)
    : state.readings.Stamps (interceptor.stamped state inputs)
        (interceptor.takeAll state inputs).readings := by
  induction inputs generalizing state with
  | nil => exact .refl state.readings
  | cons input rest ih =>
      obtain ⟨now, later⟩ := undisturbed
      exact (interceptor.stamps_take tidy now).trans (ih (tidy.take input) later)

end Interceptor

/-- The fields that a stamping fills in get the same instant. -/
theorem EventKind.stamping?_fills {kind : EventKind}
    {change : Instant → AuditStamps → AuditStamps} (rule : kind.stamping? = some change)
    (now : Instant) (old : AuditStamps)
    : ((change now old).created = old.created ∨ (change now old).created = some now)
      ∧ ((change now old).updated = old.updated ∨ (change now old).updated = some now) := by
  have filled (stamp : Option Instant)
      : some (stamp.getD now) = stamp ∨ some (stamp.getD now) = some now := by
    cases stamp with
    | none => exact Or.inr rfl
    | some earlier => exact Or.inl rfl
  cases kind with
  | pre write =>
      cases write with
      | insert =>
          cases rule
          exact ⟨filled old.created, Or.inr rfl⟩
      | update =>
          cases rule
          exact ⟨Or.inl rfl, Or.inr rfl⟩
      | delete => cases rule
  | saveOrUpdate =>
      cases rule
      exact ⟨filled old.created, filled old.updated⟩
  | post | preLoad | postLoad | validation => cases rule

namespace Interceptor

variable {interceptor : Interceptor ε μ}

/-- The clocks of an interceptor are read for stamps and for nothing else, whatever is put to it and
whatever its mapping and the hooks do, if nobody else reads them meanwhile. An event reads the clock
once if a stamp is due, which is when its entity's class has a listener, the hook does not keep the
write from going on, the kind of the event is one that stamps and the entity has stamps after the
hook; any other event does not read it at all, however it ends. So the stampings of a run take the
readings of a clock one after the other, and what is written is the reading, the same one in each
field that is filled in. After another clock was given to the interceptor all stampings are due to
that clock, of whatever class.
-/
theorem each_stamp_takes_one_reading {state : State μ} (reachable : interceptor.Reachable state)
    (inputs : List (Input ε μ)) (undisturbed : interceptor.Undisturbed state inputs)
    : state.readings.Stamps (interceptor.stamped state inputs)
        (interceptor.takeAll state inputs).readings
      ∧ (interceptor.stamped state inputs).map Prod.snd
        = stampings (interceptor.history state inputs)
      ∧ (∀ first clock later,
          inputs = first ++ .operation (.setClock clock) :: later
          → (∀ other, .operation (.setClock other) ∉ later)
          → let replaced :=
              interceptor.take (interceptor.takeAll state first) (.operation (.setClock clock))
            interceptor.stamped state inputs
            = interceptor.stamped state first
              ++ (stampings (interceptor.history replaced later)).map (clock, ·))
      ∧ (∀ before depth announcement due reached,
          interceptor.Reachable before
          → interceptor.dueWith (interceptor.servicesTo depth) announcement before
            = (due, reached)
          → let services := interceptor.servicesTo depth
            let within := interceptor.chroniclesTo depth
            let lead := interceptor.leadChronicle services within announcement before
            let left := ((interceptor.dispatchWith services).outcome (announcement, before)).2
            stampings (interceptor.dispatchChronicle services within announcement before)
              = stampings lead
                ++ due.toList.map (⟨announcement.event.kind, ·, left.1.event.entity⟩)
            ∧ before.readings.Stamps ((stampings lead).map (before.clock, ·)) reached.readings
            ∧ left.2.readings
              = if due.isSome then (reached.readings.next before.clock).2 else reached.readings)
      ∧ ∀ kind change now old,
          EventKind.stamping? kind = some change
          → (AuditStamps.created (change now old) = old.created
              ∨ (change now old).created = some now)
            ∧ ((change now old).updated = old.updated ∨ (change now old).updated = some now) := by
  refine ⟨interceptor.stamps_takeAll reachable.tidy undisturbed,
    interceptor.map_stamped state inputs, ?_, ?_, fun kind change now old rule =>
      EventKind.stamping?_fills rule now old⟩
  · rintro first clock later rfl keeps
    have tidy := reachable.tidy.takeAll first
    rw [stamped_append, stamped, interceptor.stamped_of_keeps (tidy.take _) keeps]
    rfl
  · intro before depth announcement due reached reachable told services within lead left
    have take := interceptor.take_servicesTo depth
    have follow := interceptor.follow_servicesTo depth
    have leads := interceptor.follows_lead take follow announcement reachable.tidy
    rw [told] at leads
    refine ⟨?_, leads.stamps_readings, ?_⟩
    · rw [dispatchChronicle, told, stampings_append]
      cases due <;> rfl
    · cases due with
      | none => exact congrArg State.readings (interceptor.stays_of_not_due services told)
      | some hooked =>
          obtain ⟨-, -, -, -, -, -, final⟩ :=
            interceptor.stamps_of_due take follow reachable.tidy told
          exact (congrArg State.readings final).trans (by rw [leads.clock_eq]; rfl)

end Interceptor

namespace Scenario

/-- An order about to be written, with the same actions for each of its hooks. -/
def writeOrder (write : Write) (actions : List (Action Unit))
    : Announcement (ScriptedEntity Unit) :=
  let type : EntityType := ⟨⟨7, "shop::Order"⟩, .fixed false, false⟩
  .of (.pre write
    ⟨some { ScriptedEntity.ofType type with hooks := fun _ => actions }, ⟨"Order", shop.home⟩⟩)

/-- An insert, an insert that is vetoed, an update and a delete, before the shop gets another clock
and one more order.
-/
def writes : List (Input (ScriptedEntity Unit) Memory) :=
  [.event (writeOrder .insert []), .event (writeOrder .insert [.veto]),
    .event (writeOrder .update []), .event (writeOrder .delete []),
    .operation (.setClock (.ticking 1 0 1)), .event (writeOrder .insert [])]

/-- Two of four writes read the first clock, and the only one that follows the change of clocks
reads the second.
-/
theorem each_stamp_takes_one_reading_shop
    : shop.Reachable (.initial (.ticking 0 100 5) .empty)
      ∧ shop.Undisturbed (.initial (.ticking 0 100 5) .empty) writes
      ∧ (let reached := shop.takeAll (.initial (.ticking 0 100 5) .empty) writes
        reached.readings.count (.ticking 0 100 5) = 2
        ∧ reached.readings.count (.ticking 1 0 1) = 1) := by
  have undisturbed : shop.Undisturbed (.initial (.ticking 0 100 5) .empty) writes := by
    refine ⟨?_, ?_, ?_, ?_, ?_, ?_, trivial⟩ <;> exact fun _ _ same => (nomatch same)
  have new : shop.Reachable (.initial (.ticking 0 100 5) .empty) := .initial _ _
  obtain ⟨stamps, -⟩ := Interceptor.each_stamp_takes_one_reading new writes undisturbed
  have first := stamps.taken (.ticking 0 100 5)
  have second := stamps.taken (.ticking 1 0 1)
  have stampings
      : readingsOf (.ticking 0 100 5)
          (shop.stamped (.initial (.ticking 0 100 5) .empty) writes) = 2 := by
    decide +kernel
  have stampings'
      : readingsOf (.ticking 1 0 1)
          (shop.stamped (.initial (.ticking 0 100 5) .empty) writes) = 1 := by
    decide +kernel
  rw [stampings] at first
  rw [stampings'] at second
  exact ⟨new, undisturbed, first, second⟩

end Scenario

end Lifecycle
