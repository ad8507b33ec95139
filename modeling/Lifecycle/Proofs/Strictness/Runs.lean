import Lifecycle.Proofs.Strictness.Reporting
import Lifecycle.Scenario.ScriptedMapping

/-! Two runs of the same inputs, with a lenient interceptor and with a strict one. They go through
the same states, but for the strictness of listeners, and the same happens in both; the one
difference is how a write ends that is rejected.
-/

namespace Lifecycle

variable {ε μ : Type}

/-- What an operation answers, with the listener as a configuration would have it. -/
def Answer.harden (config : Config) : Answer → Answer
  | .found listener => .found (listener.map (Listener.harden config))
  | .evicted dropped => .evicted dropped
  | .done => .done

/-- What an operation writes to the memory looks the same when it is veiled. -/
def Operation.Veiled (veil : μ → μ) : Operation μ → Prop
  | .elsewhere _ memory => veil memory = memory
  | _ => True

def Input.Veiled (veil : μ → μ) : Input ε μ → Prop
  | .operation asked => asked.Veiled veil
  | .event _ => True

/-- Whoever puts inputs to an interceptor: chooses each of them by what the events before it have
left of their entities, and stops at some time.
-/
abbrev Caller (ε μ : Type) := List (Option ε) → Option (Input ε μ)

/-- Two states are alike but for the strictness of listeners, which is as the configuration would
have it in the second.
-/
structure State.Resembles (config : Config) (veil : μ → μ) (state state' : State μ) : Prop where
  clock : state'.clock = state.clock
  readings : state'.readings = state.readings
  memory : state'.memory = veil state.memory
  triggers : state'.cache.triggers = state.cache.triggers
  listeners
    : ∀ id,
        state'.cache.listeners.get? id
        = (state.cache.listeners.get? id).map (Listener.harden config)
  stats : state'.cache.stats = state.cache.stats

theorem State.Resembles.of_harden {config : Config} {veil : μ → μ} {state state' : State μ}
    (same : state' = state.harden config veil)
    : state.Resembles config veil state' := by
  cases same
  exact ⟨rfl, rfl, rfl, rfl, fun id => state.cache.listeners.get?_map (Listener.harden config) id,
    state.cache.stats_harden config⟩

variable [Entity ε μ]

/-- A write is rejected by a listener of its entity's class, for errors that the entity reports of
itself as the event leaves it. The lenient interceptor cancels the event; the strict one tells of
the errors instead and does not cancel the event, if the configuration covers the class.
-/
structure Announcement.Rejected (announcement : Announcement ε) (config : Config)
    (listener : Listener) (errors : List String)
    (ends ends' : Except Stop Unit × Announcement ε × State μ)
    : Prop where
  judged : announcement.event.kind.isJudged = true
  faulty : errors ≠ []
  entity
    : ∃ entity left,
        announcement.event.entity = some entity
        ∧ listener.cls.id = (Entity.cls entity).id
        ∧ ends.2.1.event.entity = some left
        ∧ Entity.autoValidate left = true
        ∧ Entity.validationErrors left = errors
  skipped : ends.1 = .ok () ∧ ends.2.1.cancelled = true
  covered
    : config.covers listener.cls = true
      → ends'.1 = .error (.failed (.validation listener.cls.name errors))
        ∧ ends'.2.1.cancelled = announcement.cancelled
  uncovered
    : config.covers listener.cls = false → ends'.1 = .ok () ∧ ends'.2.1.cancelled = true

namespace Interceptor

/-- What an input leaves of the entity of its event. -/
def leaves (interceptor : Interceptor ε μ) (state : State μ) : Input ε μ → Option ε
  | .event announcement =>
      (interceptor.dispatch.outcome (announcement, state)).2.1.event.entity
  | .operation _ => none

/-- The inputs that a caller puts to an interceptor, up to a number of them. -/
def inputsOf (interceptor : Interceptor ε μ) (caller : Caller ε μ)
    : Nat → State μ → List (Option ε) → List (Input ε μ)
  | 0, _, _ => []
  | steps + 1, state, earlier =>
      match caller earlier with
      | none => []
      | some input =>
          input
            :: interceptor.inputsOf caller steps (interceptor.take state input)
                (earlier ++ [interceptor.leaves state input])

variable {interceptor : Interceptor ε μ} {config : Config} {veil : μ → μ}

/-- An operation answers the same, but for the strictness of a listener. -/
theorem perform_harden (lenient : interceptor.config = default)
    (unaware : interceptor.Unaware config veil) {operation : Operation μ}
    (veiled : operation.Veiled veil) {state : State μ} (tidy : interceptor.Tidy state)
    : let performed := (interceptor.perform operation).outcome state
      ((interceptor.harden config).perform operation).outcome (state.harden config veil)
      = (performed.1.map (Answer.harden config), performed.2.harden config veil) := by
  have harden := interceptor.harden_servicesTo lenient unaware (interceptor.nesting + 1)
  cases operation with
  | find cls factory =>
      cases cls with
      | none => exact rfl
      | some cls =>
          have finds
              : ((interceptor.harden config).find cls factory).outcome (state.harden config veil)
                = (((interceptor.find cls factory).outcome state).1.map
                    (Option.map (Listener.harden config)),
                  ((interceptor.find cls factory).outcome state).2.harden config veil) :=
            (harden.find cls factory state tidy).1
          simp only [perform, Call.outcome_map, finds]
          rcases (interceptor.find cls factory).outcome state with ⟨stop | found, reached⟩ <;>
            exact rfl
  | evict key =>
      obtain ⟨evicts, -⟩ := evict_harden (ε := ε) config veil key state
      simp only [perform, Call.outcome_map, evicts]
      rcases (evict key).outcome state with ⟨stop | dropped, reached⟩ <;> exact rfl
  | clear | setClock clock => exact rfl
  | elsewhere readings memory =>
      show (Except.ok Answer.done, { state.harden config veil with readings, memory })
        = (Except.ok Answer.done,
            { state.harden config veil with readings, memory := veil memory })
      rw [show veil memory = memory from veiled]

/-- An input leads the stricter interceptor to where it leads the lenient one, and the same happens
on the way.
-/
theorem take_harden (lenient : interceptor.config = default)
    (unaware : interceptor.Unaware config veil) {input : Input ε μ} (veiled : input.Veiled veil)
    {state : State μ} (tidy : interceptor.Tidy state)
    : (interceptor.harden config).take (state.harden config veil) input
        = (interceptor.take state input).harden config veil
      ∧ (interceptor.harden config).leaves (state.harden config veil) input
        = interceptor.leaves state input
      ∧ (interceptor.harden config).inputChronicle (state.harden config veil) input
        = interceptor.inputChronicle state input := by
  have harden := interceptor.harden_servicesTo lenient unaware (interceptor.nesting + 1)
  cases input with
  | event announcement =>
      obtain ⟨final, left, -⟩ :=
        interceptor.dispatchWith_harden lenient
          (interceptor.harden_servicesTo lenient unaware interceptor.nesting)
          (interceptor.take_servicesTo interceptor.nesting) unaware announcement tidy
      exact ⟨final, congrArg Event.entity left, (harden.dispatch announcement state tidy).2⟩
  | operation operation =>
      have allowed : operation.Veiled veil := veiled
      refine ⟨congrArg Prod.snd (interceptor.perform_harden lenient unaware allowed tidy), rfl, ?_⟩
      cases operation with
      | find cls factory =>
          cases cls with
          | none => exact rfl
          | some cls => exact (harden.find cls factory state tidy).2
      | evict key => exact (harden.evict key state).2
      | clear | setClock clock => exact (harden.clear state).2
      | elsewhere readings memory => exact rfl

/-- The same inputs lead to the same, but for the strictness of listeners. -/
theorem takeAll_harden (lenient : interceptor.config = default)
    (unaware : interceptor.Unaware config veil) {inputs : List (Input ε μ)}
    (veiled : ∀ input ∈ inputs, input.Veiled veil) {state : State μ}
    (tidy : interceptor.Tidy state)
    : (interceptor.harden config).takeAll (state.harden config veil) inputs
        = (interceptor.takeAll state inputs).harden config veil
      ∧ (interceptor.harden config).history (state.harden config veil) inputs
        = interceptor.history state inputs := by
  induction inputs generalizing state with
  | nil => exact ⟨rfl, rfl⟩
  | cons input rest ih =>
      obtain ⟨next, -, now⟩ :=
        interceptor.take_harden lenient unaware (veiled input (List.mem_cons_self ..)) tidy
      obtain ⟨final, later⟩ :=
        ih (fun input later => veiled input (List.mem_cons_of_mem _ later)) (tidy.take input)
      rw [← next] at final later
      refine ⟨final, ?_⟩
      rw [history, history, now, later]

/-- A caller puts the same inputs to both, since their events leave the same of their entities. -/
theorem inputsOf_harden (lenient : interceptor.config = default)
    (unaware : interceptor.Unaware config veil) {caller : Caller ε μ}
    (veiled : ∀ earlier input, caller earlier = some input → input.Veiled veil) (steps : Nat)
    {state : State μ} (tidy : interceptor.Tidy state) (earlier : List (Option ε))
    : (interceptor.harden config).inputsOf caller steps (state.harden config veil) earlier
        = interceptor.inputsOf caller steps state earlier
      ∧ ∀ input ∈ interceptor.inputsOf caller steps state earlier, input.Veiled veil := by
  induction steps generalizing state earlier with
  | zero => exact ⟨rfl, fun _ member => (nomatch member)⟩
  | succ steps ih =>
      rw [inputsOf, inputsOf]
      cases puts : caller earlier with
      | none => exact ⟨rfl, fun _ member => (nomatch member)⟩
      | some input =>
          have now := veiled earlier input puts
          obtain ⟨next, left, -⟩ := interceptor.take_harden lenient unaware now tidy
          obtain ⟨same, later⟩ :=
            ih (tidy.take input) (earlier ++ [interceptor.leaves state input])
          dsimp only
          rw [next, left, same]
          refine ⟨rfl, fun other member => ?_⟩
          rcases List.mem_cons.mp member with rfl | member
          · exact now
          · exact later other member

/-- A dispatch is rejected before an insert or an update, by the listener of the entity's class, for
the errors that the entity reports as the event leaves it.
-/
theorem rejectionWith_cases {services : Services ε μ} {made : Deeds ε μ}
    (take : services.Take interceptor made) {announcement : Announcement ε} {state : State μ}
    (tidy : interceptor.Tidy state) {listener : Listener} {errors : List String}
    (rejected : interceptor.rejectionWith services announcement state = some (listener, errors))
    : announcement.event.kind.isJudged = true
      ∧ errors ≠ []
      ∧ ∃ entity left,
          announcement.event.entity = some entity
          ∧ listener.cls.id = (Entity.cls entity).id
          ∧ ((interceptor.dispatchWith services).outcome (announcement, state)).2.1.event.entity
            = some left
          ∧ Entity.autoValidate left = true
          ∧ Entity.validationErrors left = errors := by
  unfold rejectionWith at rejected
  cases carried : announcement.event.entity with
  | none => simp only [carried, reduceCtorEq] at rejected
  | some entity =>
      have reaches := (interceptor.course_findWith take (Entity.cls entity)
        announcement.event.factory state).tidy tidy
      rw [interceptor.outcome_dispatchWith_of_entity services carried]
      simp only [carried] at rejected
      rcases found : (interceptor.findWith services (Entity.cls entity)
          announcement.event.factory).outcome state with ⟨stop | _ | attends, reached⟩
      all_goals rw [found] at rejected
      · cases rejected
      · cases rejected
      · obtain ⟨told, judged, same⟩ := Option.map_eq_some_iff.mp rejected
        cases same
        rw [found] at reaches
        obtain ⟨filed, -⟩ := interceptor.made_of_findWith found reaches
        obtain ⟨judges, validates, reports, some⟩ := Listener.rejection?_cases judged
        refine ⟨judges, some, entity, _, rfl, filed, ?_, validates, reports⟩
        simp only [Announcement.finish, Event.entity_map, carried, Option.map_some]

/-- A rejected write is cancelled by the lenient interceptor and told of by the strict one; any
other event ends the same.
-/
theorem rejected_dispatchWith {services services' : Services ε μ} {within within' : Chronicles ε μ}
    {made : Deeds ε μ} (lenient : interceptor.config = default)
    (harden : services.Harden interceptor config veil services' within within')
    (take : services.Take interceptor made) (unaware : interceptor.Unaware config veil)
    (announcement : Announcement ε) {state : State μ} (tidy : interceptor.Tidy state)
    : let ends := (interceptor.dispatchWith services).outcome (announcement, state)
      let ends' :=
        ((interceptor.harden config).dispatchWith services').outcome
          (announcement, state.harden config veil)
      (interceptor.rejectionWith services announcement state = none
        → ends'.1 = ends.1 ∧ ends'.2.1.cancelled = ends.2.1.cancelled)
      ∧ ∀ listener errors,
          interceptor.rejectionWith services announcement state = some (listener, errors)
          → announcement.Rejected config listener errors ends ends' := by
  obtain ⟨-, -, ends⟩ :=
    interceptor.dispatchWith_harden lenient harden take unaware announcement tidy
  refine ⟨fun passes => ?_, fun listener errors rejected => ?_⟩
  · rw [passes] at ends
    exact ends
  · rw [rejected] at ends
    obtain ⟨comes, cancelled, reports⟩ := ends
    obtain ⟨judged, faulty, entity⟩ := interceptor.rejectionWith_cases take tidy rejected
    refine ⟨judged, faulty, entity, ⟨comes, cancelled⟩, fun covers => ?_, fun covers => ?_⟩
    · rw [if_pos covers] at reports
      exact reports
    · rw [covers] at reports
      exact reports

omit [Entity ε μ] in
/-- An interceptor that is given a valid configuration is as strict as that says. -/
theorem eq_harden_of_withConfig {strict : Interceptor ε μ}
    (configured : interceptor.withConfig config = .ok strict)
    : strict = interceptor.harden config := by
  unfold withConfig at configured
  cases valid : config.validate with
  | error cause =>
      rw [valid] at configured
      cases configured
  | ok _ =>
      rw [valid] at configured
      cases configured
      rfl

/-- How strict an interceptor is changes nothing but how it tells of a rejected write. Give one of
two new interceptors a configuration, leave the other lenient, and let somebody put inputs to both
who chooses them by what the events leave of their entities. Both are put the same inputs, and in
their course the same happens: the same hooks are called on the same entities in the same order, and
the same stamps are filled in. The clocks are read equally often, the same classes are remembered,
and the listeners differ in nothing but their strictness. Each operation then answers the same, and
each event ends the same and leaves the same of its entity, unless it is a write that is rejected.
All this is for hooks and a mapping that are unaware of the difference: code that would do something
else when it is handed a strict listener, or told that a write is rejected, takes the two
interceptors different ways by itself.
-/
theorem strictness_only_reports {lenient strict : Interceptor ε μ}
    (relaxed : lenient.config = default) (configured : lenient.withConfig config = .ok strict)
    (unaware : lenient.Unaware config veil) {caller : Caller ε μ}
    (veiled : ∀ earlier input, caller earlier = some input → input.Veiled veil) {memory : μ}
    (unveiled : veil memory = memory) (clock : Clock) (steps : Nat)
    : let start := State.initial clock memory
      let inputs := lenient.inputsOf caller steps start []
      let after := lenient.takeAll start inputs
      let after' := strict.takeAll start inputs
      strict.inputsOf caller steps start [] = inputs
      ∧ strict.history start inputs = lenient.history start inputs
      ∧ after.Resembles config veil after'
      ∧ (∀ operation,
        operation.Veiled veil
        → ((strict.perform operation).outcome after').1
          = ((lenient.perform operation).outcome after).1.map (Answer.harden config))
      ∧ ∀ announcement,
          let ends := lenient.dispatch.outcome (announcement, after)
          let ends' := strict.dispatch.outcome (announcement, after')
          ends'.2.1.event = ends.2.1.event
          ∧ ends.2.2.Resembles config veil ends'.2.2
          ∧ (lenient.rejectionWith lenient.services announcement after = none
            → ends'.1 = ends.1 ∧ ends'.2.1.cancelled = ends.2.1.cancelled)
          ∧ ∀ listener errors,
              lenient.rejectionWith lenient.services announcement after = some (listener, errors)
              → announcement.Rejected config listener errors ends ends' := by
  obtain rfl := lenient.eq_harden_of_withConfig configured
  intro start inputs after after'
  have new : start.harden config veil = start :=
    congrArg (State.mk Cache.empty clock Readings.none) unveiled
  have tidy : lenient.Tidy start := (Reachable.initial clock memory).tidy
  obtain ⟨puts, inputsVeiled⟩ := lenient.inputsOf_harden relaxed unaware veiled steps tidy []
  obtain ⟨reached, happened⟩ := lenient.takeAll_harden relaxed unaware inputsVeiled tidy
  rw [new] at puts reached happened
  have tidies : lenient.Tidy after := tidy.takeAll inputs
  have harden := lenient.harden_servicesTo relaxed unaware lenient.nesting
  have take := lenient.take_servicesTo lenient.nesting
  have led : after' = after.harden config veil := reached
  clear_value after'
  subst led
  refine ⟨puts, happened, .of_harden rfl, fun operation veiled => ?_, fun announcement => ?_⟩
  · exact congrArg Prod.fst (lenient.perform_harden relaxed unaware veiled tidies)
  · obtain ⟨final, left, -⟩ :=
      lenient.dispatchWith_harden relaxed harden take unaware announcement tidies
    exact ⟨left, .of_harden final,
      lenient.rejected_dispatchWith relaxed harden take unaware announcement tidies⟩

end Interceptor

namespace Scenario

variable {ε own ν : Type} {config : Config}

-----------------------------------------------------------------------------------------
-- Scripted code is unaware
-----------------------------------------------------------------------------------------

/-- The memory with the listeners that were seen as a configuration would have them. -/
def Memory.harden (config : Config) (memory : Memory) : Memory :=
  { memory with seen := memory.seen.map (Listener.harden config) }

/-- Listeners are numbered by their serial numbers, whatever their strictness. -/
theorem Memory.number?_harden (memory : Memory) (listener : Listener)
    : (memory.harden config).number? (listener.harden config) = memory.number? listener := by
  rw [number?, number?, harden, List.findIdx?_map]
  rfl

theorem Memory.see_harden (memory : Memory) (found : Option Listener)
    : (memory.harden config).see (found.map (Listener.harden config))
      = (memory.see found).harden config := by
  cases found with
  | none => rfl
  | some listener =>
      simp only [see, Option.map_some, number?_harden]
      cases memory.number? listener with
      | some number => rfl
      | none => simp only [harden, List.map_append, List.map_cons, List.map_nil]

/-- A call back gives a number to a listener that it finds and does not look at it any further. -/
theorem Callback.script_matches {α : Type} (call : Callback)
    {next : Option (Remark ν) → Script ε Memory own α}
    (rest : ∀ remark, (next remark).Matches config (Memory.harden config) (next remark))
    : (call.script next).Matches config (Memory.harden config) (call.script next) := by
  cases call with
  | find type =>
      refine .find (fun found => .access (fun mine memory => ?_) (fun mine memory => ?_))
      · exact congrArg (Prod.mk mine) (memory.see_harden found)
      · have numbered
            : (found.map (Listener.harden config)).bind (memory.harden config).number?
              = found.bind memory.number? := by
          cases found with
          | none => rfl
          | some listener => exact memory.number?_harden listener
        dsimp only
        rw [numbered]
        exact rest _
  | evict type => exact .evict (fun dropped => rest _)
  | clear => exact .clear (rest none)

namespace ScriptedEntity

theorem changing_matches (change : ScriptedEntity ν → ScriptedEntity ν) {next : HookScript ν}
    (rest : next.Matches config (Memory.harden config) next)
    : (changing change next).Matches config (Memory.harden config) (changing change next) :=
  .access (fun _ _ => rfl) (fun _ _ => rest)

theorem perform_matches (actions : List (Action ν))
    : (perform actions).Matches config (Memory.harden config) (perform actions) := by
  induction actions with
  | nil => exact .done _
  | cons action rest ih =>
      cases action with
      | veto | proceed | fail cause => exact .done _
      | edit | note | snapshot => exact changing_matches _ ih
      | callback call => exact call.script_matches (fun _ => changing_matches _ ih)

theorem call_matches (entity : ScriptedEntity ν) (remarks : List (Remark ν)) (hook : Hook)
    : (entity.call remarks hook).Matches config (Memory.harden config)
        (entity.call remarks hook) := by
  unfold call
  split
  · exact .done _
  · exact changing_matches _ (perform_matches _)

end ScriptedEntity

namespace ScriptedMapping

theorem callAll_matches {α : Type} (calls : List Callback) {next : Script ε Memory own α}
    (rest : next.Matches config (Memory.harden config) next)
    : (callAll calls next).Matches config (Memory.harden config) (callAll calls next) := by
  induction calls with
  | nil => exact rest
  | cons call others ih => exact call.script_matches (fun _ => ih)

/-- A check answers by its number and its class, whatever its calls back find. -/
theorem context_matches (mapping : ScriptedMapping) (cls : EntityClass)
    : (mapping.context cls : Script ε Memory Unit Bool).Matches config (Memory.harden config)
        (mapping.context cls) := by
  refine .access (fun _ _ => rfl) (fun _ memory => ?_)
  dsimp only [Memory.harden]
  split
  · exact .panic
  · split
    · exact .done _
    · refine .access (fun _ _ => rfl) (fun _ _ => callAll_matches mapping.onCheck ?_)
      exact .access (fun _ _ => rfl) (fun _ _ => .done _)

end ScriptedMapping

/-- Whatever scripted hooks and checks do, they are unaware of how strict an interceptor is. -/
theorem unaware_of_scripted {interceptor : Interceptor (ScriptedEntity ν) Memory}
    {mapping : ScriptedMapping} (scripted : interceptor.mapping = mapping.context)
    : interceptor.Unaware config (Memory.harden config) where
  mapping cls := scripted ▸ mapping.context_matches cls
  before entity write := entity.call_matches [] (.before write)
  receive entity notice := (entity.call_matches _ notice.hook).map _

-----------------------------------------------------------------------------------------
-- A lenient bazaar and a strict one
-----------------------------------------------------------------------------------------

/-- Orders of a bazaar. -/
def order : EntityType := ⟨⟨7, "bazaar::Order"⟩, .fixed false, false⟩

/-- What is ordered at a bazaar. -/
def carpet : EntityType := ⟨⟨8, "bazaar::Carpet"⟩, .fixed false, false⟩

/-- Asks for the listener of carpets whenever it is asked about a class. -/
def bazaarMapping : ScriptedMapping :=
  ⟨0, [.find carpet], .registered (.ofList [order.key, carpet.key])⟩

def bazaar : Interceptor (ScriptedEntity Unit) Memory where
  home := ⟨0, "main"⟩
  config := default
  mapping := bazaarMapping.context
  nesting := 3

/-- The bazaar, with all errors fatal. -/
def strictBazaar : Interceptor (ScriptedEntity Unit) Memory := bazaar.harden ⟨true, []⟩

/-- An order that looks for its own listener before each write, with some errors. -/
def ordering (errors : List String) : ScriptedEntity Unit :=
  { ScriptedEntity.ofType order with errors, hooks := fun _ => [.callback (.find order)] }

def writingOrder (write : Write) (entity : ScriptedEntity Unit)
    : Announcement (ScriptedEntity Unit) :=
  .of (.pre write ⟨some entity, ⟨"Order", bazaar.home⟩⟩)

/-- Somebody inserts an order and then updates what is left of it. -/
def customer : Caller (ScriptedEntity Unit) Memory
  | [] => some (.event (writingOrder .insert (ordering [])))
  | [some left] => some (.event (writingOrder .update left))
  | _ => none

/-- After the same run the lenient bazaar skips an order of nothing in silence, and the strict one
says what is wrong with it.
-/
theorem strictness_only_reports_bazaar
    : bazaar.config = default
      ∧ bazaar.withConfig ⟨true, []⟩ = .ok strictBazaar
      ∧ bazaar.Unaware ⟨true, []⟩ (Memory.harden ⟨true, []⟩)
      ∧ (∀ earlier input,
        customer earlier = some input → input.Veiled (Memory.harden ⟨true, []⟩))
      ∧ Memory.empty.harden ⟨true, []⟩ = Memory.empty
      ∧ (let start := State.initial (.ticking 0 100 5) Memory.empty
        let inputs := bazaar.inputsOf customer 2 start []
        let empty := writingOrder .insert (ordering ["no carpets"])
        let ends := bazaar.dispatch.outcome (empty, bazaar.takeAll start inputs)
        let ends' := strictBazaar.dispatch.outcome (empty, strictBazaar.takeAll start inputs)
        ends.1 = .ok ()
        ∧ ends.2.1.cancelled = true
        ∧ ends'.1 = .error (.failed (.validation "bazaar::Order" ["no carpets"]))
        ∧ ends'.2.1.cancelled = false) := by
  have lenient : bazaar.config = default := rfl
  have configured : bazaar.withConfig ⟨true, []⟩ = .ok strictBazaar := rfl
  have unaware : bazaar.Unaware ⟨true, []⟩ (Memory.harden ⟨true, []⟩) := unaware_of_scripted rfl
  have veiled (earlier : List (Option (ScriptedEntity Unit))) (input : Input _ Memory)
      (puts : customer earlier = some input)
      : input.Veiled (Memory.harden ⟨true, []⟩) := by
    unfold customer at puts
    split at puts <;> cases puts <;> exact trivial
  have unseen : Memory.empty.harden ⟨true, []⟩ = Memory.empty := rfl
  obtain ⟨-, -, -, -, dispatches⟩ :=
    Interceptor.strictness_only_reports lenient configured unaware veiled unseen
      (.ticking 0 100 5) 2
  obtain ⟨-, -, -, rejections⟩ := dispatches (writingOrder .insert (ordering ["no carpets"]))
  have rejected
      : let start := State.initial (.ticking 0 100 5) Memory.empty
        let inputs := bazaar.inputsOf customer 2 start []
        (bazaar.rejectionWith bazaar.services (writingOrder .insert (ordering ["no carpets"]))
          (bazaar.takeAll start inputs)).map (fun (listener, errors) => (listener.cls.name, errors))
        = some ("bazaar::Order", ["no carpets"]) := by
    decide +kernel
  obtain ⟨⟨listener, errors⟩, rejects, told⟩ := Option.map_eq_some_iff.mp rejected
  obtain ⟨name, rfl⟩ := Prod.mk.inj told
  have ends := rejections listener ["no carpets"] rejects
  obtain ⟨reports, proceeds⟩ := ends.covered rfl
  rw [name] at reports
  exact ⟨lenient, configured, unaware, veiled, unseen, ends.skipped.1, ends.skipped.2, reports,
    proceeds⟩

end Scenario

end Lifecycle
