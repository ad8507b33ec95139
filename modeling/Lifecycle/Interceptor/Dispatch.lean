import Lifecycle.Interceptor.Resolution
import Lifecycle.Listener.Reaction

/-! Routing events. Each kind of event has a handler, which resolves the listener of the event's
entity and lets it react; an event without a listener passes. `dispatchWith` picks the handler and
cancels the event if a write is to be skipped. `services` ties the knot: what hooks and checks call
back is the same interceptor, one level further in.
-/

namespace Lifecycle

namespace Interceptor

variable {ε κ μ α : Type} [Entity ε μ]

/-- Resolves the listener of a payload for the given factory and lets it react to the entity. -/
def route (interceptor : Interceptor ε μ) (services : Services ε μ)
    (factory : κ → Option SessionFactory) (ignored : α)
    (reaction : Listener → κ → Call (ε × State μ) α) : Call (Payload ε κ × State μ) α := do
  let (payload, _) ← get
  let found ←
    (interceptor.findForWith services payload.entity (factory payload.origin)).onSecond
  match found with
  | some listener => Payload.onEntity ignored (reaction listener payload.origin)
  | none => pure ignored

/-- Handles an event before a write; answers whether the write is to be skipped. -/
def onPreWith (interceptor : Interceptor ε μ) (services : Services ε μ) (write : Write)
    : Call (Payload ε Persister × State μ) Bool :=
  interceptor.route services (fun origin => some origin.factory) false
    (fun listener _ => listener.beforeWrite services write)

def onPostWith (interceptor : Interceptor ε μ) (services : Services ε μ) (write : Write)
    : Call (Payload ε Persister × State μ) Unit :=
  interceptor.route services (fun origin => some origin.factory) ()
    (fun _ _ => Listener.notify services (.after write))

def onPreLoadWith (interceptor : Interceptor ε μ) (services : Services ε μ)
    : Call (Payload ε Persister × State μ) Unit :=
  interceptor.route services (fun origin => some origin.factory) ()
    (fun _ _ => Listener.notify services .beforeLoad)

def onPostLoadWith (interceptor : Interceptor ε μ) (services : Services ε μ)
    : Call (Payload ε Persister × State μ) Unit :=
  interceptor.route services (fun origin => some origin.factory) ()
    (fun _ _ => Listener.notify services .afterLoad)

def onSaveOrUpdateWith (interceptor : Interceptor ε μ) (services : Services ε μ)
    : Call (Payload ε SaveOrigin × State μ) Unit :=
  interceptor.route services (fun origin => some origin.factory) ()
    (fun listener origin => listener.onSave origin)

/-- Handles a validation, which belongs to no session and so to no factory. -/
def onValidationWith (interceptor : Interceptor ε μ) (services : Services ε μ)
    : Call (Payload ε ValidatedFields × State μ) Unit :=
  interceptor.route services (fun _ => none) ()
    (fun _ fields => Listener.notify services (.beforeValidate fields))

/-- Hands an event to the handler of its kind; answers whether a write is to be skipped. -/
def handleWith (interceptor : Interceptor ε μ) (services : Services ε μ)
    : Call (Announcement ε × State μ) Bool := do
  let (announcement, _) ← get
  match announcement.event with
  | .pre write payload =>
      Announcement.onPayload (.pre write) payload (interceptor.onPreWith services write)
  | .post write payload => do
      Announcement.onPayload (.post write) payload (interceptor.onPostWith services write)
      pure false
  | .preLoad payload => do
      Announcement.onPayload .preLoad payload (interceptor.onPreLoadWith services)
      pure false
  | .postLoad payload => do
      Announcement.onPayload .postLoad payload (interceptor.onPostLoadWith services)
      pure false
  | .saveOrUpdate payload => do
      Announcement.onPayload .saveOrUpdate payload (interceptor.onSaveOrUpdateWith services)
      pure false
  | .validation payload => do
      Announcement.onPayload .validation payload (interceptor.onValidationWith services)
      pure false

/-- Handles an event and cancels it if a write is to be skipped. A handler that fails leaves the
event as cancelled as it was.
-/
def dispatchWith (interceptor : Interceptor ε μ) (services : Services ε μ)
    : Call (Announcement ε × State μ) Unit := do
  if ← interceptor.handleWith services then
    modify (fun (announcement, state) => (announcement.cancel, state))

/-- How the interceptor answers code that it calls, to the given depth. -/
def servicesTo (interceptor : Interceptor ε μ) : Nat → Services ε μ
  | 0 => .none
  | depth + 1 =>
      let inner := interceptor.servicesTo depth
      { find := interceptor.findWith inner
        evict := evict
        clear := clear
        dispatch := interceptor.dispatchWith inner }

def services (interceptor : Interceptor ε μ) : Services ε μ :=
  interceptor.servicesTo interceptor.nesting

def find (interceptor : Interceptor ε μ) (cls : EntityClass) (factory : Option SessionFactory)
    : Call (State μ) (Option Listener) :=
  interceptor.findWith interceptor.services cls factory

def findFor (interceptor : Interceptor ε μ) (entity : Option ε)
    (factory : Option SessionFactory) : Call (State μ) (Option Listener) :=
  interceptor.findForWith interceptor.services entity factory

def handle (interceptor : Interceptor ε μ) : Call (Announcement ε × State μ) Bool :=
  interceptor.handleWith interceptor.services

def dispatch (interceptor : Interceptor ε μ) : Call (Announcement ε × State μ) Unit :=
  interceptor.dispatchWith interceptor.services

/-- Asks the mapping about a class, outside any resolution. -/
def isMapped (interceptor : Interceptor ε μ) (cls : EntityClass) : Call (State μ) Bool :=
  Prod.fst <$> Call.lend ((interceptor.mapping cls).run interceptor.services) ()

end Interceptor

end Lifecycle
