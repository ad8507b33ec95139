import Lifecycle.Clock
import Lifecycle.Config

/-! Listeners: what an interceptor keeps of a class that it has found to be mapped. -/

namespace Lifecycle

/-- Calls the hooks of one class. What it needs to know of the configuration and which clock it
reads are settled when it is made. The serial number tells listeners apart that are otherwise
alike.
-/
structure Listener where
  serial : Nat
  cls : EntityClass
  failOnError : Bool
  clock : Clock

def Listener.make (serial : Nat) (cls : EntityClass) (config : Config) (clock : Clock)
    : Listener :=
  ⟨serial, cls, config.covers cls, clock⟩

end Lifecycle
