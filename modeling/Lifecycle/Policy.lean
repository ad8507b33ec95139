import Lifecycle.Config
import Lifecycle.SessionFactory

/-! What an interceptor holds to from first to last: which events are its own and how strict it is
with entities that do not pass validation.
-/

namespace Lifecycle

/-- The session factory of the interceptor's datastore, and its configuration. -/
structure Policy where
  home : SessionFactory
  config : Config

/-- An event of the class belongs to the datastore: it comes from the datastore's own session
factory or says nothing of where it comes from, or the class is shared by all factories.
-/
def Policy.owns (policy : Policy) (cls : EntityClass) (factory : Option SessionFactory) : Bool :=
  cls.multiTenant || factory.all (· == policy.home)

end Lifecycle
