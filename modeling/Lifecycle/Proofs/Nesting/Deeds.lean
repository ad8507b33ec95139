import Lifecycle.Proofs.Resolution.Listing
import Lifecycle.Proofs.Resolution.Reactions

/-! What the calls of an interceptor do, deed by deed. A call may run code that calls the
interceptor back, and so on to any depth. The deeds of all these calls are listed in the order in
which they are done, and the list says nothing of how deep each of them was.
-/

namespace Lifecycle

/-- What is done to the cache of an interceptor. Whoever looks for the listener of a class hits on
what is remembered, or starts a resolution, which settles the class unless it ends early.
-/
inductive Deed where
  | hit (cls : EntityClass)
  | start (cls : EntityClass) (factory : Option SessionFactory)
  | settle (cls : EntityClass) (factory : Option SessionFactory) (eligible : Bool)
  | evict (key : ClassKey)
  | clear

/-- The deeds that come of each call that services answer, made in a state. -/
abbrev Deeds (ε μ : Type) := Listing ε μ Deed

variable {ε μ : Type}

/-- The deeds of the calls that a script makes. -/
def Script.deeds {own α : Type} (services : Services ε μ) (made : Deeds ε μ)
    : Script ε μ own α → own → State μ → List Deed :=
  Script.listing (fun _ _ => []) services made

variable [Entity ε μ]

/-- The deeds of the hook that a listener calls for an event. -/
def Event.deeds (services : Services ε μ) (made : Deeds ε μ) (event : Event ε) (state : State μ)
    : List Deed :=
  event.entity.elim [] (fun entity => (event.callback entity).deeds services made entity state)

namespace Interceptor

/-- The deeds of a check, if the mapping is asked at all. -/
def checkDeeds (interceptor : Interceptor ε μ) (services : Services ε μ) (made : Deeds ε μ)
    (cls : EntityClass) (factory : Option SessionFactory) (state : State μ)
    : List Deed :=
  if interceptor.owns cls factory then (interceptor.mapping cls).deeds services made () state
  else []

/-- The deeds of looking for the listener of a class. -/
def findDeeds (interceptor : Interceptor ε μ) (services : Services ε μ) (made : Deeds ε μ)
    (cls : EntityClass) (factory : Option SessionFactory) (state : State μ)
    : List Deed :=
  match state.cache.decided? cls.id, state.cache.enter? cls.id with
  | some _, _ => [.hit cls]
  | none, none => []
  | none, some (_, cache) =>
      let begun := { state with cache := cache.countCheck }
      .start cls factory
        :: interceptor.checkDeeds services made cls factory begun
        ++ match (interceptor.isEligible services cls factory).outcome begun with
          | (.ok eligible, _) => [.settle cls factory eligible]
          | (.error _, _) => []

def evictDeeds (key : ClassKey) (state : State μ) : List Deed :=
  if state.cache.isHeld key.id then [] else [.evict key]

/-- The deeds of an event: of looking for its listener, and of its hook if there is one. -/
def dispatchDeeds (interceptor : Interceptor ε μ) (services : Services ε μ) (made : Deeds ε μ)
    (announcement : Announcement ε) (state : State μ)
    : List Deed :=
  match announcement.event.entity with
  | none => []
  | some entity =>
      let cls : EntityClass := Entity.cls entity
      let factory := announcement.event.factory
      interceptor.findDeeds services made cls factory state
        ++ match (interceptor.findWith services cls factory).outcome state with
          | (.ok (some _), state) => announcement.event.deeds services made state
          | _ => []

/-- The deeds of the calls that an interceptor answers to the given depth. -/
def deedsTo (interceptor : Interceptor ε μ) : Nat → Deeds ε μ
  | 0 => .none
  | depth + 1 =>
      let services := interceptor.servicesTo depth
      let inner := interceptor.deedsTo depth
      { find := interceptor.findDeeds services inner
        evict := evictDeeds
        clear := fun _ => [.clear]
        dispatch := interceptor.dispatchDeeds services inner }

end Interceptor

end Lifecycle
