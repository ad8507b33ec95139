import Lifecycle.Proofs.Chronicle.Calls

/-! The counters of a cache are accounted for by what happened. A search for the listener of a class
is counted when it hits on what is remembered or when its check begins, a listener when it is kept;
nothing else is counted, and nothing is counted twice.
-/

namespace Lifecycle

variable {ε μ : Type}

namespace Occurrence

@[simp] def isSought : Occurrence ε → Bool
  | .sought .. => true
  | _ => false

@[simp] def isConsulted : Occurrence ε → Bool
  | .consulted _ => true
  | _ => false

/-- The mapping has answered that it maps a class. -/
@[simp] def isGranted : Occurrence ε → Bool
  | .answered _ mapped => mapped
  | _ => false

/-- How many listeners are taken from the cache. -/
@[simp] def removed : Occurrence ε → Nat
  | .dropped listeners => listeners
  | _ => 0

end Occurrence

open Occurrence

/-- How many listeners are taken from the cache by all that happened. -/
@[simp] def removals : List (Occurrence ε) → Nat
  | [] => 0
  | occurrence :: later => occurrence.removed + removals later

theorem removals_append (earlier later : List (Occurrence ε))
    : removals (earlier ++ later) = removals earlier + removals later := by
  induction earlier with
  | nil => exact (Nat.zero_add _).symm
  | cons occurrence rest ih =>
      rw [List.cons_append, removals, removals, ih, Nat.add_assoc]

/-- The counters of a cache and of what it has become differ by what happened in between. A search
that waits forever has not been counted.
-/
structure Cache.Accounts (before : Cache) (happened : List (Occurrence ε)) (ending : Ending)
    (after : Cache)
    : Prop where
  sought
    : ending ≠ .hung
      → after.hits + after.checks = before.hits + before.checks + happened.countP isSought
  created
    : after.created + before.listeners.size
      = before.created + after.listeners.size + removals happened
  consulted : before.checks + happened.countP isConsulted ≤ after.checks
  granted : after.created ≤ before.created + happened.countP isGranted
  kept : before.hits ≤ after.hits ∧ before.created ≤ after.created

namespace Cache.Accounts

variable {before middle after : Cache} {earlier later : List (Occurrence ε)} {ending : Ending}

theorem refl (cache : Cache) (ending : Ending)
    : cache.Accounts ([] : List (Occurrence ε)) ending cache := by
  constructor <;> simp

/-- What has no part in the counters does not count, be it a lock or a trigger. -/
theorem frame (accounts : before.Accounts earlier ending middle)
    (listeners : after.listeners = middle.listeners) (created : after.created = middle.created)
    (checks : after.checks = middle.checks) (hits : after.hits = middle.hits)
    : before.Accounts earlier ending after := by
  obtain ⟨sought, created', consulted, granted, kept⟩ := accounts
  constructor
  · rw [hits, checks]
    exact sought
  · rw [created, listeners]
    exact created'
  · rw [checks]
    exact consulted
  · rw [created]
    exact granted
  · rw [hits, created]
    exact kept

theorem trans {ended : Ending} (first : before.Accounts earlier ended middle)
    (ends : ended ≠ .hung) (rest : middle.Accounts later ending after)
    : before.Accounts (earlier ++ later) ending after := by
  obtain ⟨sought, created, consulted, granted, hits, made⟩ := first
  obtain ⟨sought', created', consulted', granted', hits', made'⟩ := rest
  have counted := sought ends
  constructor
  · intro ends
    have counted' := sought' ends
    rw [List.countP_append]
    omega
  · rw [removals_append]
    omega
  · rw [List.countP_append]
    omega
  · rw [List.countP_append]
    omega
  · exact ⟨Nat.le_trans hits hits', Nat.le_trans made made'⟩

theorem hit (cache : Cache) (cls : EntityClass) (factory : Option SessionFactory)
    : cache.Accounts [(.sought cls factory : Occurrence ε)] .returned cache.countHit := by
  constructor <;> simp [countHit]
  omega

/-- A check that begins is counted, be it one that asks the mapping or not. -/
theorem check {id : TypeId} {lock : LockId} {taken : Cache}
    (enters : before.enter? id = some (lock, taken)) (cls : EntityClass)
    (factory : Option SessionFactory) (asks : Bool)
    : before.Accounts
        (.sought cls factory :: if asks then [(.consulted cls : Occurrence ε)] else []) .returned
        taken.countCheck := by
  rw [Cache.enter?_frame enters]
  cases asks <;> constructor <;> simp [countCheck, List.countP_cons]
  all_goals omega

/-- A class without a listener that is settled has one more listener if it is found eligible. -/
theorem settle (interceptor : Interceptor ε μ) (cls : EntityClass) (eligible : Bool)
    {state : State μ} (vacant : state.cache.listeners.get? cls.id = none)
    : state.cache.Accounts [(.answered cls eligible : Occurrence ε)] .returned
        ((interceptor.settle cls eligible).outcome state).2.cache := by
  cases eligible with
  | false =>
      show state.cache.Accounts _ _ (state.cache.decline cls)
      constructor <;> simp [decline, setTrigger]
  | true =>
      have enrolled : ((interceptor.settle cls true).outcome state).2.cache
          = (state.cache.enrol cls interceptor.config state.clock).2 := rfl
      rw [enrolled, Cache.enrol_of_vacant _ _ _ vacant]
      constructor <;> simp [List.countP_cons, Table.size_insert_of_vacant _ _ vacant]
      omega

theorem forget (cache : Cache) (id : TypeId)
    : cache.Accounts [(.dropped (cache.listeners.get? id).isSome.toNat : Occurrence ε)] .returned
        (cache.forget id) := by
  have erased := cache.listeners.size_erase id
  constructor <;> simp [Cache.forget, dropListener, dropTrigger]
  omega

theorem clear (cache : Cache)
    : cache.Accounts [(.dropped cache.listeners.size : Occurrence ε)] .returned cache.clear := by
  constructor <;> simp [Cache.clear]

end Cache.Accounts

/-- Giving a class its listener counts no check. -/
theorem Cache.checks_enrol (cache : Cache) (cls : EntityClass) (config : Config) (clock : Clock)
    : (cache.enrol cls config clock).2.checks = cache.checks := by
  cases found : cache.listeners.get? cls.id with
  | none => rw [cache.enrol_of_vacant config clock found]
  | some earlier => rw [cache.enrol_of_occupied config clock found]

namespace Interceptor

variable {interceptor : Interceptor ε μ} [Entity ε μ]

/-- No class is granted a listener without a question to the mapping. -/
theorem Unfolds.granted_le_consulted {before reached : State μ} {happened : List (Occurrence ε)}
    {ending : Ending} (unfolds : interceptor.Unfolds before happened ending reached)
    : happened.countP isGranted ≤ happened.countP isConsulted := by
  induction unfolds with
  | append first rest ih ih' =>
      rw [List.countP_append, List.countP_append]
      exact Nat.add_le_add ih ih'
  | @settles state middle cls factory lock cache within eligible undecided enters own asked ih =>
      cases eligible <;> simp [List.countP_cons, List.countP_append] <;> omega
  | unwinds undecided enters asked ih | hangs undecided enters asked ih =>
      simp [List.countP_cons]
      omega
  | stays | remembers | hits | blocked | declines | evicts | clears | calls | stamps => simp

/-- Whatever happens in the course of calls is accounted for. -/
theorem Unfolds.accounts {before reached : State μ} {happened : List (Occurrence ε)}
    {ending : Ending} (unfolds : interceptor.Unfolds before happened ending reached)
    (tidy : interceptor.Tidy before)
    : before.cache.Accounts happened ending reached.cache := by
  induction unfolds with
  | stays state ending | remembers state memory => exact .refl state.cache _
  | append first rest ih ih' => exact (ih tidy).trans (by decide) (ih' (first.tidy tidy))
  | @hits state cls factory decision decided => exact .hit state.cache cls factory
  | @declines state cls factory lock cache undecided enters =>
      exact (Cache.Accounts.check enters cls factory false).frame rfl rfl rfl rfl
  | @settles state middle cls factory lock cache within eligible undecided enters own asked ih =>
      -- The lock of the class is held by this search, so no nested call has settled the class.
      obtain ⟨deeds, course⟩ := asked.exists_course
      obtain ⟨-, -, vacant, -⟩ := course.inside tidy undecided enters
      have checked := (Cache.Accounts.check enters cls factory true).trans (by decide)
        (ih (tidy.enter undecided enters))
      have settled := checked.trans (by decide) (.settle interceptor cls eligible vacant)
      exact settled.frame rfl rfl rfl rfl
  | @unwinds state middle cls factory lock cache within undecided enters asked ih =>
      have checked := (Cache.Accounts.check enters cls factory true).trans (by decide)
        (ih (tidy.enter undecided enters))
      exact checked.frame rfl rfl rfl rfl
  | @hangs state middle cls factory lock cache within undecided enters asked ih =>
      exact (Cache.Accounts.check enters cls factory true).trans (by decide)
        (ih (tidy.enter undecided enters))
  | @evicts state key free => exact .forget state.cache key.id
  | clears state => exact .clear state.cache
  | blocked | calls | stamps => constructor <;> simp

-----------------------------------------------------------------------------------------
-- Searches, inputs and runs
-----------------------------------------------------------------------------------------

/-- A search for the listener of an undecided class counts a check, if it ends. -/
theorem checks_lt_findWith {services : Services ε μ} {within : Chronicles ε μ}
    (follow : services.Follow interceptor within) {cls : EntityClass}
    {factory : Option SessionFactory} {state reached : State μ}
    {result : Except Stop (Option Listener)} (tidy : interceptor.Tidy state)
    (undecided : state.cache.decided? cls.id = none)
    (finds : (interceptor.findWith services cls factory).outcome state = (result, reached))
    (ends : Ending.of result ≠ .hung)
    : state.cache.checks < reached.cache.checks := by
  rw [outcome_findWith, undecided] at finds
  cases enters : state.cache.enter? cls.id with
  | none =>
      rw [enters] at finds
      cases finds
      exact absurd rfl ends
  | some taken =>
      obtain ⟨lock, taken⟩ := taken
      have begun : state.cache.checks < taken.countCheck.checks := by
        rw [Cache.enter?_frame enters]
        exact Nat.lt_succ_self _
      simp only [enters, holding, Call.outcome_ofOutcome, Call.outcome_bind] at finds
      cases own : interceptor.owns cls factory with
      | false =>
          rw [interceptor.outcome_isEligible_of_not_owns services own] at finds
          cases finds
          exact begun
      | true =>
          have asked := Call.Follows.run follow (interceptor.mapping cls) () _
            (tidy.enter undecided enters)
          have counted := (asked.accounts (tidy.enter undecided enters)).consulted
          have onward := Nat.lt_of_lt_of_le begun (Nat.le_of_add_right_le counted)
          rw [interceptor.outcome_isEligible_of_owns services own] at finds
          rcases answers : ((interceptor.mapping cls).run services).outcome
              ((), { state with cache := taken.countCheck })
            with ⟨(cause | _ | _) | _ | _, mine, middle⟩
          all_goals
            rw [answers] at onward finds
            cases finds
          case some.true.ok.true.refl =>
            exact Nat.lt_of_lt_of_eq onward (middle.cache.checks_enrol ..).symm
          all_goals exact onward

/-- A search that ends counts itself once, as a hit if the class is decided on and as a check if it
is not, and whatever else is counted meanwhile is counted by the searches in its course.
-/
theorem counts_once {services : Services ε μ} {within : Chronicles ε μ} {made : Deeds ε μ}
    (take : services.Take interceptor made) (follow : services.Follow interceptor within)
    {cls : EntityClass} {factory : Option SessionFactory} {state reached : State μ}
    {result : Except Stop (Option Listener)} (tidy : interceptor.Tidy state)
    (finds : (interceptor.findWith services cls factory).outcome state = (result, reached))
    (ends : Ending.of result ≠ .hung)
    : ∃ nested hits checks,
        interceptor.findChronicle services within cls factory state
          = .sought cls factory :: nested
        ∧ hits + checks = nested.countP isSought
        ∧ reached.cache.hits
          = state.cache.hits + (state.cache.decided? cls.id).isSome.toNat + hits
        ∧ reached.cache.checks
          = state.cache.checks + (state.cache.decided? cls.id).isNone.toNat + checks := by
  obtain ⟨nested, written⟩
      : ∃ nested, interceptor.findChronicle services within cls factory state
          = .sought cls factory :: nested := ⟨_, rfl⟩
  have accounts : state.cache.Accounts (.sought cls factory :: nested) (.of result)
      reached.cache := by
    have unfolds := interceptor.follows_findWith take follow cls factory state tidy
    rw [written, finds] at unfolds
    exact unfolds.accounts tidy
  have counted := accounts.sought ends
  rw [List.countP_cons_of_pos (by rfl)] at counted
  obtain ⟨kept, -⟩ := accounts.kept
  cases decided : state.cache.decided? cls.id with
  | some decision =>
      have once : reached.cache.hits = state.cache.hits + 1 := by
        rw [outcome_findWith, decided] at finds
        cases finds
        rfl
      refine ⟨nested, 0, nested.countP isSought, written, Nat.zero_add _, once, ?_⟩
      rw [Option.isNone_some, Bool.toNat_false]
      omega
  | none =>
      have begun := interceptor.checks_lt_findWith follow tidy decided finds ends
      refine ⟨nested, reached.cache.hits - state.cache.hits,
        reached.cache.checks - (state.cache.checks + 1), written, ?_, ?_, ?_⟩
      · omega
      · rw [Option.isSome_none, Bool.toNat_false]
        omega
      · rw [Option.isNone_none, Bool.toNat_true]
        omega

/-- An input is accounted for. Another clock takes all listeners from the cache. -/
theorem accounts_take {state : State μ} (tidy : interceptor.Tidy state) (input : Input ε μ)
    : state.cache.Accounts (interceptor.inputChronicle state input)
        (interceptor.ending state input) (interceptor.take state input).cache := by
  rcases interceptor.unfolds_take tidy input with unfolds | ⟨clock, rfl⟩ | ⟨readings, memory, rfl⟩
  · exact unfolds.accounts tidy
  · exact .clear state.cache
  · exact .refl state.cache _

/-- A run of inputs is accounted for, if their calls all end. -/
theorem accounts_takeAll {state : State μ} {inputs : List (Input ε μ)}
    (tidy : interceptor.Tidy state) (ends : interceptor.Ends state inputs)
    : state.cache.Accounts (interceptor.history state inputs) .returned
        (interceptor.takeAll state inputs).cache
      ∧ (interceptor.history state inputs).countP isGranted
        ≤ (interceptor.history state inputs).countP isConsulted := by
  induction inputs generalizing state with
  | nil => exact ⟨.refl state.cache .returned, Nat.le_refl _⟩
  | cons input rest ih =>
      obtain ⟨now, later⟩ := ends
      obtain ⟨accounts, granted⟩ := ih (tidy.take input) later
      refine ⟨(interceptor.accounts_take tidy input).trans now accounts, ?_⟩
      rw [history, List.countP_append, List.countP_append]
      refine Nat.add_le_add ?_ granted
      rcases interceptor.unfolds_take tidy input
        with unfolds | ⟨clock, rfl⟩ | ⟨readings, memory, rfl⟩
      · exact unfolds.granted_le_consulted
      · exact Nat.le_refl 0
      · exact Nat.le_refl 0

/-- The counters of an interceptor are accounted for by a run of inputs on a new one, whatever its
mapping and the hooks do, however deep they call it back and even if they panic, as long as all
calls end. The hits and the checks together are the searches for listeners, by inputs and by nested
calls alike, and each search counts itself once, as the one or as the other. A listener that was
created is in the cache or was taken from it by an eviction, by a clearing or by another clock. The
mapping is not asked more often than there are checks, and a listener is created only when it has
answered that it maps a class. No input ever lowers a counter, and none overflows in fewer than 2^64
searches.
-/
theorem counters_accounted (interceptor : Interceptor ε μ) (clock : Clock) (memory : μ)
    (inputs : List (Input ε μ)) (ends : interceptor.Ends (.initial clock memory) inputs)
    : let happened := interceptor.history (.initial clock memory) inputs
      let stats := (interceptor.takeAll (.initial clock memory) inputs).cache.stats
      stats.cacheHits + stats.eligibilityChecks = happened.countP isSought
      ∧ stats.listenersCreated = stats.cachedListeners + removals happened
      ∧ happened.countP isConsulted ≤ stats.eligibilityChecks
      ∧ stats.listenersCreated ≤ happened.countP isGranted
      ∧ (happened.countP isSought < UInt64.size
        → stats.cacheHits < UInt64.size
          ∧ stats.eligibilityChecks < UInt64.size
          ∧ stats.listenersCreated < UInt64.size)
      ∧ (∀ state depth cls factory result reached,
          interceptor.Reachable state
          → (interceptor.findWith (interceptor.servicesTo depth) cls factory).outcome state
            = (result, reached)
          → Ending.of result ≠ .hung
          → ∃ nested hits checks,
              interceptor.findChronicle (interceptor.servicesTo depth)
                  (interceptor.chroniclesTo depth) cls factory state
                = .sought cls factory :: nested
              ∧ hits + checks = nested.countP isSought
              ∧ reached.cache.stats.cacheHits
                = state.cache.stats.cacheHits
                  + (state.cache.decided? cls.id).isSome.toNat
                  + hits
              ∧ reached.cache.stats.eligibilityChecks
                = state.cache.stats.eligibilityChecks
                  + (state.cache.decided? cls.id).isNone.toNat
                  + checks)
      ∧ ∀ state input,
          interceptor.Reachable state
          → let before := state.cache.stats
            let after := (interceptor.take state input).cache.stats
            before.listenersCreated ≤ after.listenersCreated
            ∧ before.eligibilityChecks ≤ after.eligibilityChecks
            ∧ before.cacheHits ≤ after.cacheHits := by
  intro happened stats
  have reachable : interceptor.Reachable (.initial clock memory) := .initial clock memory
  have new := reachable.tidy
  obtain ⟨⟨sought, created, consulted, granted, -⟩, answered⟩ :=
    interceptor.accounts_takeAll new ends
  have counted : stats.cacheHits + stats.eligibilityChecks = happened.countP isSought :=
    (sought (by decide)).trans (Nat.zero_add _)
  have asked : happened.countP isConsulted ≤ stats.eligibilityChecks :=
    Nat.le_trans (Nat.le_add_left _ _) consulted
  have made : stats.listenersCreated ≤ happened.countP isGranted :=
    Nat.le_trans granted (Nat.le_of_eq (Nat.zero_add _))
  refine ⟨counted, ?_, asked, made, ?_, ?_, ?_⟩
  · refine created.trans ?_
    exact congrArg (· + removals happened) (Nat.zero_add _)
  · intro few
    have fewer : stats.listenersCreated ≤ stats.eligibilityChecks :=
      Nat.le_trans made (Nat.le_trans answered asked)
    omega
  · intro state depth cls factory result reached reachable finds ends
    exact interceptor.counts_once (interceptor.take_servicesTo depth)
      (interceptor.follow_servicesTo depth) reachable.tidy finds ends
  · intro state input reachable
    obtain ⟨-, -, consulted, -, hits, created⟩ := interceptor.accounts_take reachable.tidy input
    exact ⟨created, Nat.le_trans (Nat.le_add_right _ _) consulted, hits⟩

end Interceptor

namespace Scenario

/-- A new customer is about to be inserted. Its hook looks for the listener of customers. -/
def insertCustomer : Announcement (ScriptedEntity Unit) :=
  let type : EntityType := ⟨⟨8, "shop::Customer"⟩, .fixed false, false⟩
  .of (.pre .insert
    ⟨some { ScriptedEntity.ofType type with hooks := fun _ => [.callback (.find type)] },
      ⟨"Customer", market.home⟩⟩)

/-- A check of orders that gives customers a listener before it panics; an insert of a customer; and
then customers are evicted and looked for again before the clock is replaced.
-/
def busy : List (Input (ScriptedEntity Unit) Memory) :=
  [.operation (.find (some orders) none), .event insertCustomer,
    .operation (.evict ⟨8, "shop::Customer"⟩),
    .operation (.find (some ⟨⟨8, "shop::Customer"⟩, false⟩) none),
    .operation (.setClock (.fixed 1 0))]

/-- Six searches in a run of five inputs come to two hits and four checks; both listeners that were
created are taken from the cache again.
-/
theorem counters_accounted_market
    : market.Ends (.initial (.fixed 0 0) .empty) busy
      ∧ (let stats := (market.takeAll (.initial (.fixed 0 0) .empty) busy).cache.stats
        stats.cacheHits + stats.eligibilityChecks = 6
        ∧ stats.listenersCreated = stats.cachedListeners + 2
        ∧ 4 ≤ stats.eligibilityChecks
        ∧ stats.listenersCreated ≤ 2) := by
  have ends : market.Ends (.initial (.fixed 0 0) .empty) busy :=
    ⟨by decide +kernel, by decide +kernel, by decide +kernel, by decide +kernel,
      by decide +kernel, trivial⟩
  obtain ⟨sought, created, consulted, granted, -⟩ :=
    Interceptor.counters_accounted market (.fixed 0 0) .empty busy ends
  have searches
      : (market.history (.initial (.fixed 0 0) .empty) busy).countP isSought = 6 := by
    decide +kernel
  have losses
      : removals (market.history (.initial (.fixed 0 0) .empty) busy) = 2 := by
    decide +kernel
  have questions
      : (market.history (.initial (.fixed 0 0) .empty) busy).countP isConsulted = 4 := by
    decide +kernel
  have grants
      : (market.history (.initial (.fixed 0 0) .empty) busy).countP isGranted = 2 := by
    decide +kernel
  rw [searches] at sought
  rw [losses] at created
  rw [questions] at consulted
  rw [grants] at granted
  exact ⟨ends, sought, created, consulted, granted⟩

end Scenario

end Lifecycle
