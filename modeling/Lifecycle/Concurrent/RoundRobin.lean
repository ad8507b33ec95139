import Lifecycle.Concurrent.Machine

/-! One schedule among many: the threads take their steps in turn. -/

namespace Lifecycle.Concurrent

/-- The first class of a table that a call of `clear` has not gone past. -/
def Activity.nextSweep (cache : Cache) : Activity → Option TypeId
  | .clear (.listeners swept) => cache.listeners.ids.find? (fun id => !swept.contains id)
  | .clear (.triggers swept) => cache.triggers.ids.find? (fun id => !swept.contains id)
  | _ => none

namespace Machine

/-- The tick of a thread under a mapping that says the same of a class whenever it is asked. -/
def tickOf (machine : Machine) (verdict : EntityClass → Verdict) (id : ThreadId) : Tick :=
  let activity := machine.threads[id]?.bind Thread.current
  ⟨id, verdict, activity.bind (Activity.nextSweep machine.shared.cache)⟩

def pass (ground : Ground) (verdict : EntityClass → Verdict) (machine : Machine) : Machine :=
  (List.range machine.threads.length).foldl
    (fun machine id => machine.run ground [machine.tickOf verdict id]) machine

/-- Passes until every call has come back, at most as many as told. -/
def passes (ground : Ground) (verdict : EntityClass → Verdict) : Nat → Machine → Machine
  | 0, machine => machine
  | limit + 1, machine =>
      if machine.isIdle then machine
      else passes ground verdict limit (machine.pass ground verdict)

end Machine

end Lifecycle.Concurrent
