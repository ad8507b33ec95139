import Lifecycle.Proofs.Chronicle.Attendance
import Lifecycle.Proofs.Resolution.Isolation

/-! What happens in the course of calls, written down by someone who looks on. A call of the
interceptor is written down when it is made, whatever comes of it; so is each question to the
mapping, each answer, each hook that is called and each stamp that is filled in, in the order in
which they happen and however deep the calls are nested.
-/

namespace Lifecycle

/-- The stamping of an entity: the kind of the event that stamps it, the entity as the hook of the
event left it, and what the event leaves of it.
-/
structure Stamping (ε : Type) where
  kind : EventKind
  hooked : ε
  left : Option ε

/-- What can happen in the course of calls: the listener of a class is looked for, the mapping is
asked about a class or answers, a number of listeners are dropped from the cache, a hook is called
on an entity, an entity is stamped.
-/
inductive Occurrence (ε : Type) where
  | sought (cls : EntityClass) (factory : Option SessionFactory)
  | consulted (cls : EntityClass)
  | answered (cls : EntityClass) (mapped : Bool)
  | dropped (listeners : Nat)
  | called (hook : Hook) (entity : ε)
  | stamped (stamping : Stamping ε)

/-- What happens in the course of each call that services answer, made in a state. -/
abbrev Chronicles (ε μ : Type) := Listing ε μ (Occurrence ε)

variable {ε μ : Type}

/-- What happens in the course of a script, which is what its calls lead to. -/
def Script.chronicle {own α : Type} (services : Services ε μ) (within : Chronicles ε μ)
    : Script ε μ own α → own → State μ → List (Occurrence ε) :=
  Script.listing (fun _ _ => []) services within

namespace Interceptor

section

variable (interceptor : Interceptor ε μ) (services : Services ε μ) (within : Chronicles ε μ)

/-- The mapping is asked about a class if the event is the datastore's own. -/
def checkChronicle (cls : EntityClass) (factory : Option SessionFactory) (state : State μ)
    : List (Occurrence ε) :=
  if interceptor.owns cls factory then
    .consulted cls
      :: (interceptor.mapping cls).chronicle services within () state
      ++ match ((interceptor.mapping cls).run services).outcome ((), state) with
        | (.ok mapped, _) => [.answered cls mapped]
        | (.error _, _) => []
  else []

/-- A search is written down whatever comes of it. It leads to a check if the class is undecided and
its lock can be taken.
-/
def findChronicle (cls : EntityClass) (factory : Option SessionFactory) (state : State μ)
    : List (Occurrence ε) :=
  .sought cls factory
    :: match state.cache.decided? cls.id, state.cache.enter? cls.id with
      | none, some (_, cache) =>
          interceptor.checkChronicle services within cls factory
            { state with cache := cache.countCheck }
      | _, _ => []

end

/-- An eviction drops the listener of the class, if it has one. -/
def evictChronicle (key : ClassKey) (state : State μ) : List (Occurrence ε) :=
  if state.cache.isHeld key.id then []
  else [.dropped (state.cache.listeners.get? key.id).isSome.toNat]

/-- All listeners are dropped at once. -/
def clearChronicle (state : State μ) : List (Occurrence ε) :=
  [.dropped state.cache.listeners.size]

variable [Entity ε μ]

/-- What happens in the course of an event until the hook has ended. An event with an entity looks
for the listener of its class, and if there is one that calls the hook that belongs to the event, if
one does. An event without an entity does nothing.
-/
def leadChronicle (interceptor : Interceptor ε μ) (services : Services ε μ)
    (within : Chronicles ε μ) (announcement : Announcement ε) (state : State μ)
    : List (Occurrence ε) :=
  match announcement.event.entity with
  | none => []
  | some entity =>
      let cls : EntityClass := Entity.cls entity
      let factory := announcement.event.factory
      let event := announcement.event
      interceptor.findChronicle services within cls factory state
        ++ match (interceptor.findWith services cls factory).outcome state with
          | (.ok (some _), reached) =>
              event.kind.hook?.toList.map (Occurrence.called · entity)
                ++ (event.callback entity).chronicle services within entity reached
          | _ => []

/-- The entity that an event stamps, if it stamps one, and the state when it does or would: there is
an entity, its class has a listener, the hook lets the stamp be filled in, and after the hook the
entity has stamps.
-/
def dueWith (interceptor : Interceptor ε μ) (services : Services ε μ)
    (announcement : Announcement ε) (state : State μ)
    : Option ε × State μ :=
  match announcement.event.entity with
  | none => (none, state)
  | some entity =>
      let event := announcement.event
      match (interceptor.findWith services (Entity.cls entity) event.factory).outcome state with
      | (.ok (some _), reached) =>
          let (hooked, left) :=
            (((event.callback entity).run services).outcome (entity, reached)).2
          (if event.isDue services (entity, reached) then some hooked else none, left)
      | (_, reached) => (none, reached)

/-- What happens in the course of an event. If a stamp is due it comes last. -/
def dispatchChronicle (interceptor : Interceptor ε μ) (services : Services ε μ)
    (within : Chronicles ε μ) (announcement : Announcement ε) (state : State μ)
    : List (Occurrence ε) :=
  interceptor.leadChronicle services within announcement state
    ++ (interceptor.dueWith services announcement state).1.toList.map (fun hooked =>
      .stamped
        { kind := announcement.event.kind
          hooked := hooked
          left :=
            ((interceptor.dispatchWith services).outcome (announcement, state)).2.1.event.entity })

/-- What happens in the course of the calls that an interceptor answers to the given depth. -/
def chroniclesTo (interceptor : Interceptor ε μ) : Nat → Chronicles ε μ
  | 0 => .none
  | depth + 1 =>
      let services := interceptor.servicesTo depth
      let within := interceptor.chroniclesTo depth
      { find := interceptor.findChronicle services within
        evict := evictChronicle
        clear := clearChronicle
        dispatch := interceptor.dispatchChronicle services within }

/-- What happens in the course of an input. -/
def inputChronicle (interceptor : Interceptor ε μ) (state : State μ)
    : Input ε μ → List (Occurrence ε) :=
  let calls := interceptor.chroniclesTo (interceptor.nesting + 1)
  fun
  | .event announcement => calls.dispatch announcement state
  | .operation (.find (some cls) factory) => calls.find cls factory state
  | .operation (.evict key) => calls.evict key state
  | .operation .clear | .operation (.setClock _) => calls.clear state
  | .operation (.find none _) | .operation (.elsewhere ..) => []

/-- What happens in the course of a run of inputs. -/
def history (interceptor : Interceptor ε μ) (state : State μ)
    : List (Input ε μ) → List (Occurrence ε)
  | [] => []
  | input :: rest =>
      interceptor.inputChronicle state input
        ++ interceptor.history (interceptor.take state input) rest

end Interceptor

end Lifecycle
