/-! Session factories, one for each persistence unit, and what they own. -/

namespace Lifecycle

/-- A handle of a session factory. Its number identifies it; two factories may share a name. -/
structure SessionFactory where
  id : Nat
  name : String
  deriving Repr

namespace SessionFactory

/-- Handles are equal if they refer to the same factory. -/
instance : BEq SessionFactory := ⟨fun left right => left.id == right.id⟩

/-- The name, with a text in place of the number. -/
def display (factory : SessionFactory) (number : String) : String :=
  factory.name ++ " (" ++ number ++ ")"

end SessionFactory

/-- Maps one entity type onto the database of a session factory. -/
structure Persister where
  entityName : String
  factory : SessionFactory
  deriving Repr

/-- The entry of an entity that a session already tracks. -/
structure Entry where
  persister : Persister
  id : Option String
  deriving Repr

end Lifecycle
