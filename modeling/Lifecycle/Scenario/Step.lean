import Lifecycle.Scenario.Action
import Lifecycle.Stats

/-! The steps of a session and what is reported of each. Entities go by name, session factories by
their position in the session, and listeners by the order of their first sight.
-/

namespace Lifecycle.Scenario

/-- A clock as it is asked for: one that moves on by a step at each reading, one that stands still,
or the wall clock.
-/
inductive ClockChoice where
  | ticking (start step : Instant)
  | fixed (instant : Instant)
  | wall
  deriving Repr

/-- What becomes of an event that is fired: it is dispatched by the interceptor, published to the
registry, handed to the interceptor's handler of its kind, or handed to a listener.
-/
inductive Delivering where
  | dispatch
  | publish
  | handler
  | listener (number : Nat)
  deriving Repr

/-- An event as it is described: the name of its kind, its entity, and where it comes from. Only
what its kind knows of is used.
-/
structure EventSketch where
  kind : String
  factory : Nat
  entityName : String
  entry : Option (Nat × Option String)
  fields : ValidatedFields
  deriving Repr

/-- What a probe does with an event, once it has noted it. -/
inductive Response where
  | ignore
  | cancel
  | fail (cause : Failure)
  deriving Repr

/-- A subscriber that notes the events it is shown; without a list of kinds it supports all. -/
structure Probe where
  name : String
  kinds : Option (List String)
  response : Response
  deriving Repr

/-- One step of a session. -/
inductive Step (ν : Type) where
  | fire (sketch : EventSketch) (entity : Option String) (cancelled : Bool)
    (delivering : Delivering)
  | find (entity : Option String) (factory : Option Nat)
  | inspect (listener : Nat)
  | makeListener (type : EntityType) (config : Config) (clock : ClockChoice)
  | evict (type : EntityType)
  | evictClass (entity : String)
  | clear
  | setClock (clock : ClockChoice)
  | summary
  | describe
  | overview
  | isMapped (entity : String)
  | act (entity : String) (actions : List (Action ν))
  | registerInterceptor
  | registerProbe (probe : Probe)
  | wants (kind : String)
  deriving Repr

def Step.entity? {ν : Type} : Step ν → Option String
  | .fire _ entity _ _ => entity
  | .find entity _ => entity
  | .evictClass entity | .isMapped entity | .act entity _ => some entity
  | _ => none

/-- What a step answers. -/
inductive Answer where
  | nothing
  | flag (value : Bool)
  | number (value : Option Nat)
  | text (value : String)
  | names (values : List String)
  | listener (listener : Listener)
  | overview (config : Config) (home : String) (owned : List Bool) (now : Instant)

/-- Why a step gives no answer: its call stopped, or it asks for a position beyond the end of what
there is.
-/
inductive Trouble where
  | stopped (stop : Stop)
  | beyond (count position : Nat)
  deriving DecidableEq, Repr

def Trouble.failed (cause : Failure) : Trouble := .stopped (.failed cause)

def itemAt {α : Type} (items : List α) (position : Nat) : Except Trouble α :=
  match items[position]? with
  | some item => .ok item
  | none => .error (.beyond items.length position)

/-- What is reported of a step: its answer or why there is none, the stamps of the entity that it
names and the remarks that are new in its log, whether the event it fired is cancelled, the events
shown to probes, and the statistics of the interceptor.
-/
structure Report (ν : Type) where
  result : Except Trouble Answer
  entity : Option (AuditStamps × List (Remark ν))
  cancelled : Option Bool
  deliveries : List Delivery
  stats : Stats

end Lifecycle.Scenario
