import Lifecycle.Interceptor.Dispatch

/-! The registry through which the persistence engine publishes events to all who subscribed. An
event is shown to the subscribers of its kind in the order in which they subscribed, and the first
failure ends it.
-/

namespace Lifecycle

/-- Receives the events of the kinds that it supports. -/
structure Subscriber (ε μ : Type) where
  name : String
  supports : EventKind → Bool
  receive : Call (Announcement ε × State μ) Unit

/-- An interceptor as a subscriber to every kind. -/
def Interceptor.subscriber {ε μ : Type} [Entity ε μ] (interceptor : Interceptor ε μ)
    : Subscriber ε μ where
  name := subscriberName
  supports kind := EventKind.all.contains kind
  receive := interceptor.dispatch

/-- The subscribers in the order of their registration. -/
structure Registry (ε μ : Type) where
  subscribers : List (Subscriber ε μ)

namespace Registry

variable {ε μ : Type}

def empty : Registry ε μ := ⟨[]⟩

def register (registry : Registry ε μ) (subscriber : Subscriber ε μ) : Registry ε μ :=
  ⟨registry.subscribers ++ [subscriber]⟩

def names (registry : Registry ε μ) : List String := registry.subscribers.map Subscriber.name

def wants (registry : Registry ε μ) (kind : EventKind) : Bool :=
  registry.subscribers.any (fun subscriber => subscriber.supports kind)

/-- Shows the event to those of the subscribers who support the kind, until one fails. -/
def deliver (kind : EventKind) : List (Subscriber ε μ) → Call (Announcement ε × State μ) Unit
  | [] => pure ()
  | subscriber :: rest => do
      if subscriber.supports kind then subscriber.receive
      deliver kind rest

/-- Publishes an event. Who is shown it depends on the kind it has when it is published; that it
is cancelled on the way keeps nobody from being shown it.
-/
def publish (registry : Registry ε μ) : Call (Announcement ε × State μ) Unit := do
  let (announcement, _) ← get
  deliver announcement.event.kind registry.subscribers

end Registry

end Lifecycle
