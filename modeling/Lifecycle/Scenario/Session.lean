import Lifecycle.Description
import Lifecycle.Registry
import Lifecycle.Scenario.ScriptedEntity
import Lifecycle.Scenario.ScriptedMapping
import Lifecycle.Scenario.Step

/-! Sessions: an interceptor of scripted entities is driven step by step. Nothing that a step does
is undone when it fails, so the report of a failed step shows how far it came.
-/

namespace Lifecycle.Scenario

/-- What the wall clock shows. The instant lies beyond every date of the calendar, so it is told
apart from each one that a scenario names.
-/
def wallInstant : Instant := 1000000000000000000

/-- The clock that is asked for, with a number of its own. -/
def ClockChoice.clock (id : Nat) : ClockChoice → Clock
  | .ticking start step => .ticking id start step
  | .fixed instant => .fixed id instant
  | .wall => .fixed id wallInstant

/-- What stands for the number of a session factory in a text. The number is the factory's own
business; only whether two are equal matters.
-/
def hiddenNumber : String := "<id>"

/-- How deep calls back can nest in a session: a hook asks for a listener, the check that decides
on it asks for another, and the check of that one makes no calls.
-/
def nesting : Nat := 3

/-- Everything that a session holds. -/
structure Session (ν : Type) where
  factories : List SessionFactory
  interceptor : Interceptor (ScriptedEntity ν) Memory
  registry : Registry (ScriptedEntity ν) Memory
  entities : List (String × ScriptedEntity ν)
  state : State Memory
  clocks : Nat

/-- What makes up a session. -/
structure Setting (ν : Type) where
  factories : List SessionFactory
  home : SessionFactory
  mapping : ScriptedMapping
  config : Option Config
  clock : ClockChoice
  entities : List (String × ScriptedEntity ν)

/-- A probe as a subscriber. It notes the event as it is shown to it, then responds. -/
def Probe.subscriber {ν : Type} (probe : Probe) : Subscriber (ScriptedEntity ν) Memory where
  name := probe.name
  supports kind := probe.kinds.all (fun kinds => kinds.contains kind.name)
  receive := do
    let (announcement, state) ← get
    let delivery := ⟨probe.name, announcement.event.kind, announcement.cancelled⟩
    let memory := { state.memory with deliveries := state.memory.deliveries ++ [delivery] }
    let state := { state with memory }
    match probe.response with
    | .ignore => set (announcement, state)
    | .cancel => set (announcement.cancel, state)
    | .fail cause => do
        set (announcement, state)
        throw (.failed cause)

namespace Session

variable {ν α : Type}

/-- Opens a session, unless its configuration is refused. -/
def start (setting : Setting ν) : Except Failure (Session ν) := do
  let plain : Interceptor (ScriptedEntity ν) Memory :=
    ⟨⟨setting.home, default⟩, setting.mapping.context, nesting⟩
  let interceptor ←
    match setting.config with
    | some config => plain.withConfig config
    | none => pure plain
  pure
    { factories := setting.factories
      interceptor := interceptor
      registry := .empty
      entities := setting.entities
      state := .initial (setting.clock.clock 0) .empty
      clocks := 1 }

def entity? (session : Session ν) (name : String) : Option (ScriptedEntity ν) :=
  (session.entities.find? (fun entry => entry.1 == name)).map Prod.snd

/-- Puts an entity in the place of the one that goes by the name. -/
def withEntity (session : Session ν) (name : String) (entity : ScriptedEntity ν) : Session ν :=
  { session with
    entities := session.entities.map (fun entry =>
      if entry.1 == name then (name, entity) else entry) }

/-- Makes a clock that nobody else reads. -/
def newClock (session : Session ν) (choice : ClockChoice) : Clock × Session ν :=
  (choice.clock session.clocks, { session with clocks := session.clocks + 1 })

def perform (session : Session ν) (call : Call (State Memory) α) : Except Trouble α × Session ν :=
  let (result, state) := call.outcome session.state
  (result.mapError .stopped, { session with state })

def mapMemory (session : Session ν) (change : Memory → Memory) : Session ν :=
  { session with state := { session.state with memory := change session.state.memory } }

/-- The number of a listener, which is seen now if it was not seen before. -/
def numberOf (session : Session ν) (listener : Option Listener) : Option Nat × Session ν :=
  let session := session.mapMemory (·.see listener)
  (listener.bind session.state.memory.number?, session)

def event (factories : List SessionFactory) (sketch : EventSketch) (kind : EventKind)
    (entity : Option α) : Except Trouble (Event α) := do
  let persister (position : Nat) : Except Trouble Persister := do
    pure ⟨sketch.entityName, ← itemAt factories position⟩
  match kind with
  | .pre write => pure (.pre write ⟨entity, ← persister sketch.factory⟩)
  | .post write => pure (.post write ⟨entity, ← persister sketch.factory⟩)
  | .preLoad => pure (.preLoad ⟨entity, ← persister sketch.factory⟩)
  | .postLoad => pure (.postLoad ⟨entity, ← persister sketch.factory⟩)
  | .saveOrUpdate => do
      let session ← itemAt factories sketch.factory
      let entry ← sketch.entry.mapM (fun (position, id) => do
        pure (⟨← persister position, id⟩ : Entry))
      pure (.saveOrUpdate ⟨entity, session, entry⟩)
  | .validation => pure (.validation ⟨entity, sketch.fields⟩)

/-- Only a kind that may be cancelled has an answer that is worth showing. -/
def verdict (kind : EventKind) (skipped : Bool) : Answer :=
  if kind.isCancellable then .flag skipped else .nothing

def delivery (session : Session ν) (kind : EventKind)
    : Delivering
      → Except Trouble (Call (Announcement (ScriptedEntity ν) × State Memory) Answer)
  | .dispatch => .ok ((fun _ => .nothing) <$> session.interceptor.dispatch)
  | .publish => .ok ((fun _ => .nothing) <$> session.registry.publish)
  | .handler => .ok (verdict kind <$> session.interceptor.handle)
  | .listener number => do
      let listener ← itemAt session.state.memory.seen number
      pure (verdict kind <$> listener.react session.interceptor.services)

/-- Sends an event that is about the entity of a name: what becomes of it, and whether it is
cancelled afterwards. The entity stays as the delivery leaves it.
-/
def send (session : Session ν) (announcement : Announcement (ScriptedEntity ν))
    (name : Option String) (delivering : Delivering)
    : Except Trouble Answer × Bool × Session ν :=
  match session.delivery announcement.event.kind delivering with
  | .error trouble => (.error trouble, announcement.cancelled, session)
  | .ok call =>
      let (result, announcement, state) := call.outcome (announcement, session.state)
      let session := { session with state }
      let session :=
        match name, announcement.event.entity with
        | some name, some entity => session.withEntity name entity
        | _, _ => session
      (result.mapError .stopped, announcement.cancelled, session)

/-- Fires an event. Only of an event that exists is it told whether it is cancelled. -/
def fire (session : Session ν) (sketch : EventSketch) (name : Option String) (cancelled : Bool)
    (delivering : Delivering) : Except Trouble Answer × Option Bool × Session ν :=
  match EventKind.parse sketch.kind with
  | .error cause => (.error (.failed cause), none, session)
  | .ok kind =>
      match event session.factories sketch kind (name.bind session.entity?) with
      | .error trouble => (.error trouble, none, session)
      | .ok event =>
          let (result, cancelled, session) := session.send ⟨event, cancelled⟩ name delivering
          (result, some cancelled, session)

/-- Runs actions on an entity outside any hook; answers whether they ended in a veto. -/
def act (session : Session ν) (name : String) (actions : List (Action ν))
    : Except Trouble Answer × Session ν :=
  match session.entity? name with
  | none => (.ok .nothing, session)
  | some entity =>
      let script := ScriptedEntity.perform actions
      let (result, entity, state) :=
        (script.run session.interceptor.services).outcome (entity, session.state)
      let session := { session with state }.withEntity name entity
      match result with
      | .ok (.ok decision) => (.ok (.flag decision.isVeto), session)
      | .ok (.error cause) => (.error (.failed cause), session)
      | .error stop => (.error (.stopped stop), session)

def class? (session : Session ν) (name : String) : Option EntityClass :=
  (session.entity? name).map (fun entity => Entity.cls entity)

/-- Registers a subscriber and answers who is registered now. -/
def register (session : Session ν) (subscriber : Subscriber (ScriptedEntity ν) Memory)
    : Except Trouble Answer × Session ν :=
  let session := { session with registry := session.registry.register subscriber }
  (.ok (.names session.registry.names), session)

/-- Answers with the number of a listener, if a call gives one. -/
def numbering (session : Session ν) (call : Call (State Memory) (Option Listener))
    : Except Trouble Answer × Session ν :=
  match session.perform call with
  | (.ok found, session) =>
      let (number, session) := session.numberOf found
      (.ok (.number number), session)
  | (.error trouble, session) => (.error trouble, session)

/-- Answers with what a call gives. -/
def answering (session : Session ν) (answer : α → Answer) (call : Call (State Memory) α)
    : Except Trouble Answer × Session ν :=
  let (result, session) := session.perform call
  (result.map answer, session)

/-- Takes a step other than firing an event. -/
def take (session : Session ν) : Step ν → Except Trouble Answer × Session ν
  | .fire .. => (.ok .nothing, session)
  | .find name position =>
      match position.mapM (itemAt session.factories) with
      | .ok factory =>
          session.numbering
            (session.interceptor.findFor (name.bind session.entity?) factory)
      | .error trouble => (.error trouble, session)
  | .inspect number => ((itemAt session.state.memory.seen number).map .listener, session)
  | .makeListener type config choice =>
      let (clock, session) := session.newClock choice
      session.numbering (do
        let state ← get
        let (listener, cache) := state.cache.makeListener type.key.cls config clock
        set { state with cache }
        pure (some listener))
  | .evict type => session.answering .flag (Interceptor.evict type.key)
  | .evictClass name =>
      match session.class? name with
      | some cls => session.answering .flag (Interceptor.evict cls.key)
      | none => (.ok .nothing, session)
  | .clear => session.answering (fun _ => .nothing) Interceptor.clear
  | .setClock choice =>
      let (clock, session) := session.newClock choice
      session.answering (fun _ => .nothing) (Interceptor.setClock clock)
  | .summary => (.ok (.text session.state.cache.stats.summary), session)
  | .describe =>
      (.ok (.text (session.interceptor.description hiddenNumber session.state.cache.stats)),
        session)
  | .overview =>
      let state := session.state
      let (now, readings) := state.readings.next state.clock
      let home := session.interceptor.home
      (.ok (.overview session.interceptor.config home.name
          (session.factories.map (· == home)) now),
        { session with state := { state with readings } })
  | .isMapped name =>
      match session.class? name with
      | some cls => session.answering .flag (session.interceptor.isMapped cls)
      | none => (.ok .nothing, session)
  | .act name actions => session.act name actions
  | .registerInterceptor => session.register session.interceptor.subscriber
  | .registerProbe probe => session.register probe.subscriber
  | .wants kind =>
      match EventKind.parse kind with
      | .ok kind => (.ok (.flag (session.registry.wants kind)), session)
      | .error cause => (.error (.failed cause), session)

/-- What there is to show of the entity that a step names. What is shown once is taken from the
log.
-/
def showEntity (session : Session ν) (name : Option String)
    : Option (AuditStamps × List (Remark ν)) × Session ν :=
  match name with
  | none => (none, session)
  | some name =>
      match session.entity? name with
      | none => (none, session)
      | some entity =>
          (some (entity.recorded, entity.log), session.withEntity name { entity with log := [] })

def step (session : Session ν) (step : Step ν) : Report ν × Session ν :=
  let (result, cancelled, session) :=
    match step with
    | .fire sketch name cancelled delivering => session.fire sketch name cancelled delivering
    | other =>
        let (result, session) := session.take other
        (result, none, session)
  let (entity, session) := session.showEntity step.entity?
  let deliveries := session.state.memory.deliveries
  ({ result, entity, cancelled, deliveries, stats := session.state.cache.stats },
    session.mapMemory (fun memory => { memory with deliveries := [] }))

def run (session : Session ν) : List (Step ν) → List (Report ν)
  | [] => []
  | step :: rest =>
      let (report, session) := session.step step
      report :: session.run rest

end Session

end Lifecycle.Scenario
