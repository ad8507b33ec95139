import Lifecycle.EntityClass

/-! The entity types of a scenario. A type has a key of its own; the class that its instances
report need not be that of the type.
-/

namespace Lifecycle.Scenario

/-- How the instances of a type tell their class: as the type's own, shared by all tenants or not
unless an instance says otherwise; as the type's own, with a tenancy that no instance can change;
or as the class of another type for which they stand in.
-/
inductive Reporting where
  | adjustable (multiTenant : Bool)
  | fixed (multiTenant : Bool)
  | standsFor (key : ClassKey)
  deriving Repr

/-- A type of entities. A plain type has no stamps, declares no hooks and never finds fault with
an instance.
-/
structure EntityType where
  key : ClassKey
  reporting : Reporting
  plain : Bool
  deriving Repr

namespace EntityType

/-- The class that an instance reports, given what it says of its tenancy. -/
def classOf (type : EntityType) (tenancy : Option Bool) : EntityClass :=
  match type.reporting with
  | .adjustable multiTenant => ⟨type.key, tenancy.getD multiTenant⟩
  | .fixed multiTenant => ⟨type.key, multiTenant⟩
  | .standsFor key => key.cls

/-- The class that a new instance reports. -/
def instanceClass (type : EntityType) : EntityClass := type.classOf none

end EntityType

end Lifecycle.Scenario
