/-! The times at which an entity was created and last updated, and who fills them in. -/

namespace Lifecycle

/-- A point in time, in milliseconds since the start of 1970. -/
abbrev Instant := Int

/-- The audit fields of an entity. -/
structure AuditStamps where
  created : Option Instant
  updated : Option Instant
  deriving DecidableEq, Repr, Inhabited

namespace AuditStamps

/-- An insert is an update of an entity that may have been created earlier. -/
def inserted (now : Instant) (stamps : AuditStamps) : AuditStamps :=
  ⟨some (stamps.created.getD now), some now⟩

/-- An update leaves the time of creation alone. -/
def updatedAt (now : Instant) (stamps : AuditStamps) : AuditStamps :=
  { stamps with updated := some now }

/-- A first save fills in what is missing. -/
def saved (now : Instant) (stamps : AuditStamps) : AuditStamps :=
  ⟨some (stamps.created.getD now), some (stamps.updated.getD now)⟩

end AuditStamps

end Lifecycle
