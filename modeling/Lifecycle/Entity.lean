import Lifecycle.Script

/-! Entities as the interceptor sees them: a class, audit stamps if there are any, a judgement on
their own validity, and the hooks they declare. An entity type is an instance of `Entity`; what
its hooks do is a `Script` for each hook.
-/

namespace Lifecycle

/-- The hooks that an entity may declare. -/
inductive Hook where
  | before (write : Write)
  | after (write : Write)
  | beforeLoad
  | afterLoad
  | beforeValidate
  deriving DecidableEq, Repr

/-- The hook that belongs to a kind of event. Saving an entity calls none. -/
def EventKind.hook? : EventKind → Option Hook
  | .pre write => some (.before write)
  | .post write => some (.after write)
  | .preLoad => some .beforeLoad
  | .postLoad => some .afterLoad
  | .validation => some .beforeValidate
  | .saveOrUpdate => none

/-- What an entity is told through a hook that decides nothing. -/
inductive Notice where
  | after (write : Write)
  | beforeLoad
  | afterLoad
  | beforeValidate (fields : ValidatedFields)
  deriving DecidableEq, Repr

def Notice.hook : Notice → Hook
  | .after write => .after write
  | .beforeLoad => .beforeLoad
  | .afterLoad => .afterLoad
  | .beforeValidate _ => .beforeValidate

/-- A type of entities whose hooks share a memory of type `μ`. The class is told by the instance,
so that an entity that stands in for another may report the class of that other.
-/
class Entity (ε : Type) (μ : outParam Type) where
  cls : ε → EntityClass
  stamps : ε → Option AuditStamps
  withStamps : ε → AuditStamps → ε
  autoValidate : ε → Bool
  validationErrors : ε → List String
  before : ε → Write → Script ε μ ε (Except Failure Decision)
  receive : ε → Notice → Script ε μ ε (Except Failure Unit)

end Lifecycle
