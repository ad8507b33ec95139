import Lifecycle.Proofs.Chronicle.Calls
import Lifecycle.Proofs.Strictness.Hardening

/-! Code that is unaware of how strict an interceptor is. Whatever it calls, it is answered the same
by a lenient interceptor and by a strict one, but for the strictness of the listeners that it is
handed and for the way in which it learns of a rejection; so it does the same with both.
-/

namespace Lifecycle

variable {ε μ : Type}

-----------------------------------------------------------------------------------------
-- Scripts
-----------------------------------------------------------------------------------------

/-- The second script does with a strict interceptor what the first does with a lenient one. It is
handed listeners as the configuration would have them, its memory is veiled, and it learns of a
rejected write by an error instead of by a cancelled event.
-/
inductive Script.Matches {own α : Type} (config : Config) (veil : μ → μ)
    : Script ε μ own α → Script ε μ own α → Prop
  | done (value : α) : Matches config veil (.done value) (.done value)
  | panic : Matches config veil .panic .panic
  | access {change change' next next'}
    (same
      : ∀ mine memory,
          change' (mine, veil memory)
          = ((change (mine, memory)).1, veil (change (mine, memory)).2))
    (rest : ∀ mine memory, Matches config veil (next (mine, memory)) (next' (mine, veil memory)))
    : Matches config veil (.access change next) (.access change' next')
  | find {cls factory next next'}
    (rest : ∀ found, Matches config veil (next found) (next' (found.map (Listener.harden config))))
    : Matches config veil (.find cls factory next) (.find cls factory next')
  | evict {key next next'} (rest : ∀ dropped, Matches config veil (next dropped) (next' dropped))
    : Matches config veil (.evict key next) (.evict key next')
  | clear {next next'} (rest : Matches config veil next next')
    : Matches config veil (.clear next) (.clear next')
  | dispatch {announcement next next'}
    (rest : ∀ result left, Matches config veil (next result left) (next' result left))
    (reported
      : ∀ name errors left,
          Matches config veil (next (.ok ()) left.cancel)
            (next' (.error (.validation name errors)) left))
    : Matches config veil (.dispatch announcement next) (.dispatch announcement next')

/-- A script with a changed value matches one with a value that is changed alike. -/
theorem Script.Matches.map {own α β : Type} {config : Config} {veil : μ → μ}
    {script script' : Script ε μ own α} (matching : script.Matches config veil script')
    (change : α → β)
    : (script.map change).Matches config veil (script'.map change) := by
  induction matching with
  | done value => exact .done _
  | panic => exact .panic
  | access same rest ih => exact .access same ih
  | find rest ih => exact .find ih
  | evict rest ih => exact .evict ih
  | clear rest ih => exact .clear ih
  | dispatch rest reported ih ih' => exact .dispatch ih ih'

/-- The mapping and the hooks are unaware of the strictness of an interceptor. -/
structure Interceptor.Unaware [Entity ε μ] (interceptor : Interceptor ε μ) (config : Config)
    (veil : μ → μ)
    : Prop where
  mapping : ∀ cls, (interceptor.mapping cls).Matches config veil (interceptor.mapping cls)
  before
    : ∀ (entity : ε) write,
        (Entity.before entity write).Matches config veil (Entity.before entity write)
  receive
    : ∀ (entity : ε) notice,
        (Entity.receive entity notice).Matches config veil (Entity.receive entity notice)

theorem Interceptor.Unaware.callback [Entity ε μ] {interceptor : Interceptor ε μ} {config : Config}
    {veil : μ → μ} (unaware : interceptor.Unaware config veil) (event : Event ε) (entity : ε)
    : (event.callback entity).Matches config veil (event.callback entity) := by
  cases event with
  | pre write payload => exact unaware.before entity write
  | saveOrUpdate payload => exact .done _
  | post | preLoad | postLoad | validation => exact (unaware.receive entity _).map _

-----------------------------------------------------------------------------------------
-- Calls
-----------------------------------------------------------------------------------------

variable [Entity ε μ] {interceptor : Interceptor ε μ} {config : Config} {veil : μ → μ}

/-- How calls end that are made to a lenient interceptor and to a strict one: with answers that are
related, or both in the same way without one.
-/
inductive Hardened {σ α : Type} (config : Config) (veil : μ → μ) (related : α → α → Prop)
    : Except Stop α × σ × State μ → Except Stop α × σ × State μ → Prop
  | answers {value value'} (alike : related value value') (last : σ) (reached : State μ)
    : Hardened config veil related (.ok value, last, reached)
        (.ok value', last, reached.harden config veil)
  | stops (stop : Stop) (last : σ) (reached : State μ)
    : Hardened config veil related (.error stop, last, reached)
        (.error stop, last, reached.harden config veil)

theorem Hardened.eq {σ α : Type} {outcome outcome' : Except Stop α × σ × State μ}
    (hardened : Hardened config veil Eq outcome outcome')
    : outcome' = (outcome.1, outcome.2.1, outcome.2.2.harden config veil) := by
  cases hardened with
  | answers alike =>
      cases alike
      rfl
  | stops => rfl

/-- What becomes of an event with a lenient interceptor and with a strict one: the same, or the one
cancels a write that the other reports.
-/
inductive Reported (config : Config) (veil : μ → μ)
    : Except Stop Unit × Announcement ε × State μ → Except Stop Unit × Announcement ε × State μ
      → Prop
  | alike (result : Except Stop Unit) (left : Announcement ε) (reached : State μ)
    : Reported config veil (result, left, reached) (result, left, reached.harden config veil)
  | rejected (name : String) (errors : List String) (left : Announcement ε) (reached : State μ)
    : Reported config veil (.ok (), left.cancel, reached)
        (.error (.failed (.validation name errors)), left, reached.harden config veil)

/-- What code learns of an event that it dispatches, by the one and by the other. -/
inductive Learned
    : Except Failure Unit × Announcement ε → Except Failure Unit × Announcement ε → Prop
  | alike (answered : Except Failure Unit × Announcement ε) : Learned answered answered
  | rejected (name : String) (errors : List String) (left : Announcement ε)
    : Learned (.ok (), left.cancel) (.error (.validation name errors), left)

/-- From a hardened state the second call does what the first does from the state that was hardened,
if that is in order, and the same happens in their course.
-/
def Call.Hardens {σ α : Type} (interceptor : Interceptor ε μ) (config : Config) (veil : μ → μ)
    (related : α → α → Prop) (call call' : Call (σ × State μ) α)
    (chronicle chronicle' : σ → State μ → List (Occurrence ε))
    : Prop :=
  ∀ start state,
    interceptor.Tidy state
    → Hardened config veil related (call.outcome (start, state))
        (call'.outcome (start, state.harden config veil))
      ∧ chronicle' start (state.harden config veil) = chronicle start state
      ∧ interceptor.Tidy (call.outcome (start, state)).2.2

omit [Entity ε μ] in
/-- What follows calls that answer alike comes to the same, if it does so for all such answers. -/
theorem Call.Hardens.bind {σ α β : Type} {related : α → α → Prop} {related' : β → β → Prop}
    {call call' : Call (σ × State μ) α} {next next' : α → Call (σ × State μ) β}
    {chronicle chronicle' : σ → State μ → List (Occurrence ε)}
    {later later' : α → σ → State μ → List (Occurrence ε)}
    (first : Call.Hardens interceptor config veil related call call' chronicle chronicle')
    (rest
      : ∀ value value',
          related value value'
          → Call.Hardens interceptor config veil related' (next value) (next' value')
              (later value) (later' value'))
    : Call.Hardens interceptor config veil related' (call >>= next) (call' >>= next')
        (call.listThen chronicle later) (call'.listThen chronicle' later') := by
  intro start state tidy
  obtain ⟨ends, same, reaches⟩ := first start state tidy
  rw [Call.outcome_bind, Call.outcome_bind, Call.listThen, Call.listThen, same]
  generalize call.outcome (start, state) = outcome at ends reaches
  generalize call'.outcome (start, state.harden config veil) = outcome' at ends
  cases ends with
  | answers alike last reached =>
      obtain ⟨ends, same, reaches⟩ := rest _ _ alike last reached reaches
      refine ⟨ends, ?_, reaches⟩
      dsimp only
      rw [same]
  | stops stop last reached => exact ⟨.stops stop last reached, rfl, reaches⟩

omit [Entity ε μ] in
/-- Calls that leave the part of their caller alone, and whose answers differ as told. -/
theorem Call.Hardens.onSecond {σ α : Type} {call call' : Call (State μ) α} (alter : α → α)
    {chronicle chronicle' : State μ → List (Occurrence ε)}
    (ends
      : ∀ state,
          interceptor.Tidy state
          → call'.outcome (state.harden config veil)
              = ((call.outcome state).1.map alter, (call.outcome state).2.harden config veil)
            ∧ chronicle' (state.harden config veil) = chronicle state)
    (reaches : ∀ state, interceptor.Tidy state → interceptor.Tidy (call.outcome state).2)
    : Call.Hardens (σ := σ) interceptor config veil (fun value value' => value' = alter value)
        call.onSecond call'.onSecond (fun _ => chronicle) (fun _ => chronicle') := by
  intro start state tidy
  obtain ⟨ends, same⟩ := ends state tidy
  refine ⟨?_, same, reaches state tidy⟩
  simp only [Call.onSecond, Call.outcome_ofOutcome, ends]
  rcases call.outcome state with ⟨stop | value, reached⟩
  · exact .stops stop start reached
  · refine .answers ?_ start reached
    rfl

/-- The calls of scripts are answered as a lenient interceptor answers them and as a strict one
does.
-/
structure Services.Harden (interceptor : Interceptor ε μ) (config : Config) (veil : μ → μ)
    (services services' : Services ε μ) (within within' : Chronicles ε μ)
    : Prop where
  find
    : ∀ cls factory state,
        interceptor.Tidy state
        → (services'.find cls factory).outcome (state.harden config veil)
            = (((services.find cls factory).outcome state).1.map
                (Option.map (Listener.harden config)),
              ((services.find cls factory).outcome state).2.harden config veil)
          ∧ within'.find cls factory (state.harden config veil) = within.find cls factory state
  evict
    : ∀ key state,
        (services'.evict key).outcome (state.harden config veil)
          = (((services.evict key).outcome state).1,
            ((services.evict key).outcome state).2.harden config veil)
        ∧ within'.evict key (state.harden config veil) = within.evict key state
  clear
    : ∀ state,
        services'.clear.outcome (state.harden config veil)
          = ((services.clear.outcome state).1,
            (services.clear.outcome state).2.harden config veil)
        ∧ within'.clear (state.harden config veil) = within.clear state
  dispatch
    : ∀ announcement state,
        interceptor.Tidy state
        → Reported config veil (services.dispatch.outcome (announcement, state))
            (services'.dispatch.outcome (announcement, state.harden config veil))
          ∧ within'.dispatch announcement (state.harden config veil)
            = within.dispatch announcement state

omit [Entity ε μ] in
/-- Whoever dispatches an event learns the same from both, or that a write is cancelled from the one
and why it is rejected from the other.
-/
theorem Services.Harden.attempt {services services' : Services ε μ}
    {within within' : Chronicles ε μ} {made : Deeds ε μ} {own : Type}
    (harden : services.Harden interceptor config veil services' within within')
    (take : services.Take interceptor made) (announcement : Announcement ε)
    : Call.Hardens interceptor config veil Learned
        (Call.onSecond (Call.lend services.dispatch.attempt announcement)
          : Call (own × State μ) _)
        (Call.onSecond (Call.lend services'.dispatch.attempt announcement))
        (fun _ => within.dispatch announcement) (fun _ => within'.dispatch announcement) := by
  intro mine state tidy
  obtain ⟨reports, same⟩ := harden.dispatch announcement state tidy
  have reaches := (take.dispatch announcement state).tidy tidy
  simp only [Call.onSecond, Call.lend, Call.attempt, Call.outcome_ofOutcome]
  generalize services.dispatch.outcome (announcement, state) = outcome at reports reaches ⊢
  generalize services'.dispatch.outcome (announcement, state.harden config veil) = outcome'
    at reports
  cases reports with
  | alike result left reached =>
      rcases result with (cause | _ | _) | _
      · exact ⟨.answers (.alike (.error cause, left)) mine reached, same, reaches⟩
      · exact ⟨.stops .panicked mine reached, same, reaches⟩
      · exact ⟨.stops .hung mine reached, same, reaches⟩
      · exact ⟨.answers (.alike (.ok (), left)) mine reached, same, reaches⟩
  | rejected name errors left reached =>
      exact ⟨.answers (.rejected name errors left) mine reached, same, reaches⟩

omit [Entity ε μ] in
/-- A script that matches another does with the strict interceptor what that does with the lenient
one.
-/
theorem Services.Harden.run {services services' : Services ε μ} {within within' : Chronicles ε μ}
    {made : Deeds ε μ} {own α : Type}
    (harden : services.Harden interceptor config veil services' within within')
    (take : services.Take interceptor made) {script script' : Script ε μ own α}
    (matching : script.Matches config veil script')
    : Call.Hardens interceptor config veil Eq (script.run services) (script'.run services')
        (script.chronicle services within) (script'.chronicle services' within') := by
  induction matching with
  | done value =>
      exact fun mine state tidy => ⟨.answers rfl mine state, rfl, tidy⟩
  | panic => exact fun mine state tidy => ⟨.stops .panicked mine state, rfl, tidy⟩
  | @access change change' next next' same rest ih =>
      intro mine state tidy
      have remembers
          : interceptor.Course state [] .returned
              { state with memory := (change (mine, state.memory)).2 } :=
        .elsewhere state state.readings _
      rw [Script.run, Script.run, Call.outcome_bind, Call.outcome_bind, Call.outcome_get,
        Call.outcome_get]
      simp only [Call.andThen, Call.outcome_bind, Call.outcome_set]
      -- What the one does to the memory the other does to the veiled memory.
      have moved
          : change' (mine, (state.harden config veil).memory)
            = ((change (mine, state.memory)).1, veil (change (mine, state.memory)).2) :=
        same mine state.memory
      obtain ⟨ends, written, reaches⟩ :=
        ih (change (mine, state.memory)).1 (change (mine, state.memory)).2
          (change (mine, state.memory)).1 _ (remembers.tidy tidy)
      rw [moved]
      refine ⟨ends, ?_, reaches⟩
      simp only [Script.chronicle, Script.listing, List.nil_append]
      rw [moved]
      exact written
  | @find cls factory next next' rest ih =>
      refine .bind (.onSecond (Option.map (Listener.harden config)) (harden.find cls factory)
        (fun state tidy => (take.find cls factory state).tidy tidy)) ?_
      rintro found _ rfl
      exact ih found
  | @evict key next next' rest ih =>
      refine .bind (.onSecond id (fun state _ => ?_)
        (fun state tidy => (take.evict key state).tidy tidy)) ?_
      · rw [Except.map_id]
        exact harden.evict key state
      · intro dropped answered same
        obtain rfl : answered = dropped := same
        exact ih answered
  | clear rest ih =>
      refine .bind (.onSecond id (fun state _ => ?_)
        (fun state tidy => (take.clear state).tidy tidy)) ?_
      · rw [Except.map_id]
        exact harden.clear state
      · exact fun _ _ _ => ih
  | @dispatch announcement next next' rest reported ih ih' =>
      refine .bind (harden.attempt take announcement) (fun answered answered' learned => ?_)
      -- A script that matches goes on alike whichever way it learns of a rejection.
      cases learned with
      | alike => exact ih answered.1 answered.2
      | rejected name errors left => exact ih' name errors left

end Lifecycle
