import Lifecycle.Proofs.Resolution.Callbacks

/-! Events of foreign session factories. Whether an event of a class reaches a listener is decided
by the event that first asks for the class, and every later event is treated as that one was until
the class is forgotten. So a foreign event may keep the datastore's own events from their listener,
and one of the datastore's own may open the listener to foreign events.
-/

namespace Lifecycle

variable {ε μ : Type} [Entity ε μ]

/-- What is put to an interceptor from outside: an event, or an operation. -/
inductive Input (ε μ : Type) where
  | event (announcement : Announcement ε)
  | operation (operation : Operation μ)

/-- What an input asks for, whatever hooks ask for while it is worked on. -/
def Input.request : Input ε μ → Operation μ
  | .event announcement => announcement.event.request
  | .operation asked => asked

namespace Interceptor

variable {interceptor : Interceptor ε μ} {accepts : TypeId → Bool}

/-- The state after an input. An input that stops early leaves what it has done. -/
def take (interceptor : Interceptor ε μ) (state : State μ) : Input ε μ → State μ
  | .event announcement => (interceptor.dispatch.outcome (announcement, state)).2.2
  | .operation operation => ((interceptor.perform operation).outcome state).2

def takeAll (interceptor : Interceptor ε μ) (state : State μ) (inputs : List (Input ε μ))
    : State μ :=
  inputs.foldl interceptor.take state

/-- What is asked in the course of an input, by itself and by the hooks that it leads to. -/
def inputRequests (interceptor : Interceptor ε μ) (state : State μ)
    : Input ε μ → List (Operation μ)
  | .event announcement =>
      interceptor.dispatchRequests interceptor.services
        (interceptor.requestsTo interceptor.nesting) announcement state
  | .operation operation => [operation]

/-- What is asked in the course of a run of inputs, in the order in which it is asked. -/
def asked (interceptor : Interceptor ε μ) (state : State μ) : List (Input ε μ) → List (Operation μ)
  | [] => []
  | input :: rest =>
      interceptor.inputRequests state input ++ interceptor.asked (interceptor.take state input) rest

theorem Silent.take_eq_after (silent : interceptor.Silent) (state : State μ) (input : Input ε μ)
    : interceptor.take state input
      = interceptor.after state (interceptor.inputRequests state input) := by
  cases input with
  | event announcement =>
      exact silent.told_dispatchWith (silent.told_servicesTo interceptor.nesting) announcement state
  | operation operation => rfl

/-- A run of inputs leaves the interceptor as all that is asked in its course does. -/
theorem Silent.takeAll_eq_after (silent : interceptor.Silent) (state : State μ)
    (inputs : List (Input ε μ))
    : interceptor.takeAll state inputs
      = interceptor.after state (interceptor.asked state inputs) := by
  induction inputs generalizing state with
  | nil => rfl
  | cons input rest ih =>
      rw [asked, after_append, ← silent.take_eq_after]
      exact ih _

/-- Whoever asks for a class in a history has the same claim to a listener as the given asker. -/
def Alike (interceptor : Interceptor ε μ) (history : List (Operation μ)) (cls : EntityClass)
    (factory : Option SessionFactory) : Prop :=
  ∀ other origin,
    .find (some other) origin ∈ history
    → other.id = cls.id
    → interceptor.owns other origin = interceptor.owns cls factory

omit [Entity ε μ] in
/-- If all who ask for a class have the same claim it does not matter who decides. -/
theorem Alike.grants_decider {history : List (Operation μ)} {cls : EntityClass}
    {factory : Option SessionFactory} (alike : interceptor.Alike history cls factory)
    : interceptor.grants accepts cls.id ((deciders history cls.id).getD (cls, factory))
      = interceptor.grants accepts cls.id (cls, factory) := by
  cases decided : deciders history cls.id with
  | none => rfl
  | some asker =>
      obtain ⟨member, same⟩ := mem_of_deciders decided
      simp only [Option.getD_some, grants, alike _ _ member same]

/-- An event whose class has no listener stays as it is: no hook is called, no stamp is filled in,
and nothing is cancelled.
-/
theorem outcome_dispatch_of_none (interceptor : Interceptor ε μ) {announcement : Announcement ε}
    {entity : ε} (carried : announcement.event.entity = some entity) {state reached : State μ}
    (finds
      : (interceptor.find (Entity.cls entity) announcement.event.factory).outcome state
        = (.ok none, reached))
    : interceptor.dispatch.outcome (announcement, state) = (.ok (), announcement, reached) := by
  rw [find] at finds
  rw [dispatch, outcome_dispatchWith, carried, findForWith, finds]
  rfl

/-- An event whose class has a listener is delivered to it. -/
theorem outcome_dispatch_of_some (interceptor : Interceptor ε μ) {announcement : Announcement ε}
    {entity : ε} (carried : announcement.event.entity = some entity) {state reached : State μ}
    {listener : Listener}
    (finds
      : (interceptor.find (Entity.cls entity) announcement.event.factory).outcome state
        = (.ok (some listener), reached))
    : interceptor.dispatch.outcome (announcement, state)
      = (listener.deliver interceptor.services).outcome (announcement, reached) := by
  rw [find] at finds
  rw [dispatch, outcome_dispatchWith, carried, findForWith, finds]
  rfl

/-- Whether an event reaches a listener depends on who decided on its class. A run of inputs on a
new interceptor, with a mapping that always says the same of a class, amounts to what is asked in
its course, by the inputs and by the hooks that they lead to. After it a class is given a listener
if and only if the mapping maps it and whoever decided on it belonged to the datastore; if nobody
has decided the one that asks does. So the asker's own claim counts as long as all who have asked
for the class have the same claim. An event whose class is given no listener is left alone, and one
whose class is given a listener is delivered to it.
-/
theorem first_asker_decides (steady : interceptor.Steady accepts) (clock : Clock) (memory : μ)
    (inputs : List (Input ε μ))
    : let asked := interceptor.asked (.initial clock memory) inputs
      let state := interceptor.takeAll (.initial clock memory) inputs
      state = interceptor.after (.initial clock memory) asked
      ∧ ∀ cls factory,
          ∃ found reached,
            (interceptor.find cls factory).outcome state = (.ok found, reached)
            ∧ (let decider := (deciders asked cls.id).getD (cls, factory)
              found.isSome = (accepts cls.id && interceptor.owns decider.1 decider.2))
            ∧ (interceptor.Alike asked cls factory
              → found.isSome = (accepts cls.id && interceptor.owns cls factory))
            ∧ ∀ (announcement : Announcement ε) (entity : ε),
                announcement.event.entity = some entity
                → Entity.cls entity = cls
                → announcement.event.factory = factory
                → (found = none
                    → interceptor.dispatch.outcome (announcement, state)
                      = (.ok (), announcement, reached))
                  ∧ ∀ listener,
                      found = some listener
                      → interceptor.dispatch.outcome (announcement, state)
                        = (listener.deliver interceptor.services).outcome
                            (announcement, reached) := by
  intro asked state
  have amounts : state = interceptor.after (.initial clock memory) asked :=
    steady.silent.takeAll_eq_after _ inputs
  refine ⟨amounts, ?_⟩
  intro cls factory
  obtain ⟨found, reached, finds, granted⟩ := steady.isSome_find clock memory asked cls factory
  rw [← amounts] at finds
  refine ⟨found, reached, finds, granted, ?_, ?_⟩
  · intro alike
    rw [granted]
    exact alike.grants_decider
  · rintro announcement entity carried rfl rfl
    constructor
    · rintro rfl
      exact interceptor.outcome_dispatch_of_none carried finds
    · rintro listener rfl
      exact interceptor.outcome_dispatch_of_some carried finds

end Interceptor

namespace Scenario

/-- The interceptor of a shop that maps its orders and nothing else. -/
def shop : Interceptor (ScriptedEntity Unit) Memory where
  home := ⟨0, "main"⟩
  config := default
  mapping := (Mappings.ofList [⟨7, "shop::Order"⟩]).context
  nesting := 1

/-- The interceptor of a shop that maps its customers as well. -/
def store : Interceptor (ScriptedEntity Unit) Memory :=
  { shop with mapping := (Mappings.ofList [⟨7, "shop::Order"⟩, ⟨8, "shop::Customer"⟩]).context }

/-- Orders are single-tenant. -/
def orderType : EntityType := ⟨⟨7, "shop::Order"⟩, .fixed false, false⟩

/-- A new order is about to be inserted by a session of a factory. -/
def insertOrder (factory : SessionFactory) : Announcement (ScriptedEntity Unit) :=
  .of (.pre .insert ⟨some (.ofType orderType), ⟨"Order", factory⟩⟩)

/-- A new customer is about to be inserted. Its hook evicts orders, and then asks for their
listener, which is for no factory.
-/
def welcomeCustomer : Announcement (ScriptedEntity Unit) :=
  let type : EntityType := ⟨⟨8, "shop::Customer"⟩, .fixed false, false⟩
  let hooks : Hook → List (Action Unit) :=
    fun _ => [.callback (.evict orderType), .callback (.find orderType)]
  .of (.pre .insert ⟨some { ScriptedEntity.ofType type with hooks }, ⟨"Customer", store.home⟩⟩)

/-- An insert of a foreign factory decides on orders, until the hook of a customer evicts them and
asks for them for no factory. So the hook decides, and the next insert of the foreign factory is
delivered.
-/
theorem first_asker_decides_store
    : let inputs : List (Input (ScriptedEntity Unit) Memory) :=
        [.event (insertOrder ⟨1, "reporting"⟩), .event welcomeCustomer]
      store.Steady (fun id => id == 8 || id == 7)
      ∧ (deciders (store.asked (.initial (.fixed 0 0) .empty) inputs) orderType.key.id).map Prod.snd
        = some none
      ∧ ∃ (listener : Listener) (reached : State Memory),
          store.dispatch.outcome
              (insertOrder ⟨1, "reporting"⟩,
                store.takeAll (.initial (.fixed 0 0) .empty) inputs)
            = (listener.deliver store.services).outcome (insertOrder ⟨1, "reporting"⟩, reached) := by
  intro inputs
  have steady : store.Steady (fun id => id == 8 || id == 7) :=
    ⟨fun _ => trivial, fun _ _ => congrArg (fun mapped => Except.ok (_ || mapped)) (Bool.or_false _)⟩
  have unbound
      : (deciders (store.asked (.initial (.fixed 0 0) .empty) inputs) orderType.instanceClass.id).map
            (fun asker => asker.2.isNone)
        = some true := by
    decide +kernel
  obtain ⟨⟨first, origin⟩, decided, unbound⟩ := Option.map_eq_some_iff.mp unbound
  obtain rfl : origin = none := Option.isNone_iff_eq_none.mp unbound
  have own : store.owns first none = true := Bool.or_true _
  obtain ⟨-, answers⟩ := Interceptor.first_asker_decides steady (.fixed 0 0) .empty inputs
  obtain ⟨found, reached, -, granted, -, delivers⟩ :=
    answers orderType.instanceClass (some ⟨1, "reporting"⟩)
  rw [decided] at granted
  obtain ⟨listener, rfl⟩ := Option.isSome_iff_exists.mp (granted.trans own)
  exact ⟨steady, congrArg (Option.map Prod.snd) decided, listener, reached,
    (delivers (insertOrder ⟨1, "reporting"⟩) _ rfl rfl rfl).2 listener rfl⟩

theorem shop_steady : shop.Steady (fun id => id == 7) :=
  ⟨fun _ => trivial, fun _ _ => congrArg Except.ok (Bool.or_false _)⟩

/-- The asker's own claim does not decide, not even if all who ask for a class agree on its tenancy:
an insert of a foreign factory keeps the listener from the shop's own.
-/
theorem not_isolated_shop
    : shop.Steady (fun id => id == 7)
      ∧ ¬ ∀ (inputs : List (Input (ScriptedEntity Unit) Memory)) (cls : EntityClass)
            (factory : Option SessionFactory),
          (∀ input ∈ inputs,
            ∀ other origin,
              input.request = .find (some other) origin
              → other.id = cls.id
              → other.multiTenant = cls.multiTenant)
          → ((shop.find cls factory).outcome
                (shop.takeAll (.initial (.fixed 0 0) .empty) inputs)).1.map Option.isSome
            = .ok (cls.id == 7 && shop.owns cls factory) := by
  refine ⟨shop_steady, ?_⟩
  intro isolated
  have heard :=
    isolated [.event (insertOrder ⟨1, "reporting"⟩)] ⟨⟨7, "shop::Order"⟩, false⟩ (some shop.home)
      (by
        intro input member other origin asks _
        obtain rfl := List.mem_singleton.mp member
        cases asks
        rfl)
  exact Bool.false_ne_true (Except.ok.inj heard)

end Scenario

end Lifecycle
