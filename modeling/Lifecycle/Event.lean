import Lifecycle.EventKind
import Lifecycle.SessionFactory

/-! Events as the persistence engine announces them. An event carries the entity it is about,
which a hook may change before the engine goes on, and says where it comes from.
-/

namespace Lifecycle

/-- What an event carries: its entity, unless that has not been materialised, and where the
event comes from.
-/
structure Payload (ε κ : Type) where
  entity : Option ε
  origin : κ

/-- Where an event of saving an entity comes from: the factory of the session, and the entry of
the entity if the session tracks it already.
-/
structure SaveOrigin where
  session : SessionFactory
  entry : Option Entry

/-- The factory whose persister writes the entity: a tracked entity's own, else the session's.
-/
def SaveOrigin.factory (origin : SaveOrigin) : SessionFactory :=
  match origin.entry with
  | some entry => entry.persister.factory
  | none => origin.session

/-- What a validation is restricted to, if it is. -/
abbrev ValidatedFields := Option (List String)

/-- An event of the persistence lifecycle of entities of type `ε`. -/
inductive Event (ε : Type) where
  | pre (write : Write) (payload : Payload ε Persister)
  | post (write : Write) (payload : Payload ε Persister)
  | preLoad (payload : Payload ε Persister)
  | postLoad (payload : Payload ε Persister)
  | saveOrUpdate (payload : Payload ε SaveOrigin)
  | validation (payload : Payload ε ValidatedFields)

namespace Event

variable {ε : Type}

def kind : Event ε → EventKind
  | .pre write _ => .pre write
  | .post write _ => .post write
  | .preLoad _ => .preLoad
  | .postLoad _ => .postLoad
  | .saveOrUpdate _ => .saveOrUpdate
  | .validation _ => .validation

def entity : Event ε → Option ε
  | .pre _ payload | .post _ payload | .preLoad payload | .postLoad payload => payload.entity
  | .saveOrUpdate payload => payload.entity
  | .validation payload => payload.entity

end Event

/-- An event on its way to those who listen. Once it is cancelled the engine skips the write
that it announces.
-/
structure Announcement (ε : Type) where
  event : Event ε
  cancelled : Bool

namespace Announcement

variable {ε : Type}

/-- A new announcement is not cancelled. -/
def of (event : Event ε) : Announcement ε := ⟨event, false⟩

/-- Cancels the event; doing so again changes nothing. -/
def cancel (announcement : Announcement ε) : Announcement ε :=
  { announcement with cancelled := true }

end Announcement

end Lifecycle
