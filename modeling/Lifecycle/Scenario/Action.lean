import Lifecycle.Entity
import Lifecycle.Scenario.EntityType

/-! What the hooks and checks of a scenario do, written down as data, and what they leave behind:
remarks in the log of an entity, and a memory that the whole scenario shares.
-/

namespace Lifecycle.Scenario

/-- A change that a hook makes to its entity. -/
inductive Edit where
  | created (instant : Option Instant)
  | updated (instant : Option Instant)
  | errors (texts : List String)
  | autoValidate (enabled : Bool)
  | auditable (enabled : Bool)
  | tenancy (multiTenant : Option Bool)
  deriving Repr

/-- A call back to the interceptor. -/
inductive Callback where
  | find (type : EntityType)
  | evict (type : EntityType)
  | clear
  deriving Repr

/-- One action of a hook. The first three end the hook; notes are of a type that the scenario does
not look into.
-/
inductive Action (ν : Type) where
  | veto
  | proceed
  | fail (cause : Failure)
  | edit (change : Edit)
  | note (value : ν)
  | snapshot
  | callback (call : Callback)
  deriving Repr

/-- One remark in the log of an entity. Listeners are mentioned by their number. -/
inductive Remark (ν : Type) where
  | called (hook : Hook)
  | fields (fields : ValidatedFields)
  | noted (value : ν)
  | stamps (stamps : AuditStamps)
  | found (listener : Option Nat)
  | evicted (dropped : Bool)
  deriving Repr

/-- An event as it was shown to a probe. -/
structure Delivery where
  probe : String
  kind : EventKind
  cancelled : Bool
  deriving Repr

/-- What a scenario remembers: how often its mapping was asked, whether a check is at its own
calls, the listeners it has seen in the order of their first sight, and the events shown to probes
since that was last reported.
-/
structure Memory where
  checks : Nat
  checking : Bool
  seen : List Listener
  deliveries : List Delivery

namespace Memory

def empty : Memory := ⟨0, false, [], []⟩

/-- The number of a listener that was seen before. -/
def number? (memory : Memory) (listener : Listener) : Option Nat :=
  memory.seen.findIdx? (fun earlier => earlier.serial == listener.serial)

/-- Numbers a listener that was not seen before. -/
def see (memory : Memory) (listener : Option Listener) : Memory :=
  match listener with
  | none => memory
  | some listener =>
      match memory.number? listener with
      | some _ => memory
      | none => { memory with seen := memory.seen ++ [listener] }

end Memory

namespace Callback

variable {ε own α : Type}

/-- The script of a call back, which goes on with what there is to say of the answer. -/
def script {ν : Type} (call : Callback) (next : Option (Remark ν) → Script ε Memory own α)
    : Script ε Memory own α :=
  match call with
  | .find type =>
      .find type.instanceClass none (fun found =>
        .access (fun (mine, memory) => (mine, memory.see found)) (fun (_, memory) =>
          next (some (.found (found.bind memory.number?)))))
  | .evict type => .evict type.key (fun dropped => next (some (.evicted dropped)))
  | .clear => .clear (next none)

end Callback

end Lifecycle.Scenario
