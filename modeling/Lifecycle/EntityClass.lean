import Lifecycle.Text.Path

/-! Descriptors of entity types. A type is told apart from all others by its number alone; its
fully qualified name decides which packages it lies below and how it is called.
-/

namespace Lifecycle

abbrev TypeId := Nat

/-- What a cache entry of an entity type is filed under: the number identifies the type, the
name is carried for readers.
-/
structure ClassKey where
  id : TypeId
  name : String
  deriving Repr

/-- Keys are equal if they belong to the same type. -/
instance : BEq ClassKey := ⟨fun left right => left.id == right.id⟩

/-- Describes the type of an entity. A multi-tenant type accepts events of every session
factory.
-/
structure EntityClass where
  key : ClassKey
  multiTenant : Bool
  deriving Repr

namespace EntityClass

/-- Descriptors are equal if they describe the same type, whatever they say of its tenancy. -/
instance : BEq EntityClass := ⟨fun left right => left.key == right.key⟩

def id (cls : EntityClass) : TypeId := cls.key.id

def name (cls : EntityClass) : String := cls.key.name

/-- The part of the name after its last separator. -/
def simpleName (cls : EntityClass) : String :=
  String.ofList (Text.Path.lastSegment cls.name.toList)

/-- The type lies in the package or in a package inside it. -/
def isBelow (cls : EntityClass) (package : String) : Bool :=
  Text.Path.isBelow package.toList cls.name.toList

end EntityClass

/-- The descriptor of a type as seen without an instance: nothing is known of its tenancy, so
it counts as single-tenant.
-/
def ClassKey.cls (key : ClassKey) : EntityClass := ⟨key, false⟩

end Lifecycle
