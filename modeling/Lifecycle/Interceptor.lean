import Lifecycle.Entity
import Lifecycle.Mapping
import Lifecycle.Policy

/-! The interceptor of one datastore: which events are its own, which classes it maps, and how
strict it is. What it remembers is in `State`; this is what stays the same.
-/

namespace Lifecycle

/-- Routes the events of a datastore to the hooks of its entities. Hooks and checks of the
mapping may call the interceptor back as deep as `nesting` says; a deeper call never comes back.
-/
structure Interceptor (ε μ : Type) extends Policy where
  mapping : MappingContext ε μ
  nesting : Nat

namespace Interceptor

variable {ε μ : Type}

/-- The name under which an interceptor is registered as a subscriber. -/
def subscriberName : String := "event-triggering-interceptor"

/-- The interceptor with another configuration, unless that is refused. -/
def withConfig (interceptor : Interceptor ε μ) (config : Config)
    : Except Failure (Interceptor ε μ) := do
  config.validate
  pure { interceptor with config }

end Interceptor

end Lifecycle
