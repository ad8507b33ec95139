import Lifecycle.Proofs.Chronicle.Occurrences

/-! What counts of the session factories that events name. One factory of each event decides whether
the event is the datastore's own, and only the number of that factory counts; how factories and
persisters are called, and under which id an entity is tracked, makes no difference to anything.
-/

namespace Lifecycle

variable {ε μ : Type}

-----------------------------------------------------------------------------------------
-- Events that are alike
-----------------------------------------------------------------------------------------

/-- Persisters of one session factory, whatever they and the factory are called. -/
def Persister.Alike (persister persister' : Persister) : Prop :=
  persister.factory.id = persister'.factory.id

/-- A tracked entity has alike persisters, under any id and in sessions of any factories; one that
is not tracked is saved by sessions of one factory.
-/
inductive SaveOrigin.Alike : SaveOrigin → SaveOrigin → Prop
  | tracked {persister persister' : Persister} (same : persister.Alike persister')
    (session session' : SessionFactory) (id id' : Option String)
    : Alike ⟨session, some ⟨persister, id⟩⟩ ⟨session', some ⟨persister', id'⟩⟩
  | untracked {session session' : SessionFactory} (same : session.id = session'.id)
    : Alike ⟨session, none⟩ ⟨session', none⟩

/-- Events of one kind about one entity, with origins that are alike. -/
inductive Event.Alike : Event ε → Event ε → Prop
  | pre (write : Write) (entity : Option ε) {persister persister' : Persister}
    (same : persister.Alike persister')
    : Alike (.pre write ⟨entity, persister⟩) (.pre write ⟨entity, persister'⟩)
  | post (write : Write) (entity : Option ε) {persister persister' : Persister}
    (same : persister.Alike persister')
    : Alike (.post write ⟨entity, persister⟩) (.post write ⟨entity, persister'⟩)
  | preLoad (entity : Option ε) {persister persister' : Persister}
    (same : persister.Alike persister')
    : Alike (.preLoad ⟨entity, persister⟩) (.preLoad ⟨entity, persister'⟩)
  | postLoad (entity : Option ε) {persister persister' : Persister}
    (same : persister.Alike persister')
    : Alike (.postLoad ⟨entity, persister⟩) (.postLoad ⟨entity, persister'⟩)
  | saveOrUpdate (entity : Option ε) {origin origin' : SaveOrigin} (same : origin.Alike origin')
    : Alike (.saveOrUpdate ⟨entity, origin⟩) (.saveOrUpdate ⟨entity, origin'⟩)
  | validation (payload : Payload ε ValidatedFields)
    : Alike (.validation payload) (.validation payload)

/-- Announcements of events that are alike, both cancelled or neither. -/
structure Announcement.Alike (announcement announcement' : Announcement ε) : Prop where
  event : announcement.event.Alike announcement'.event
  cancelled : announcement'.cancelled = announcement.cancelled

namespace Event.Alike

variable {event event' : Event ε}

theorem entity (alike : event.Alike event') : event'.entity = event.entity := by
  cases alike <;> rfl

theorem kind (alike : event.Alike event') : event'.kind = event.kind := by
  cases alike <;> rfl

/-- Both ask for a listener for one factory, or for none. -/
theorem factory (alike : event.Alike event')
    : event'.factory.map SessionFactory.id = event.factory.map SessionFactory.id := by
  cases alike with
  | pre write entity same | post write entity same | preLoad entity same
  | postLoad entity same =>
      exact congrArg some same.symm
  | saveOrUpdate entity same =>
      cases same with
      | tracked same => exact congrArg some same.symm
      | untracked same => exact congrArg some same.symm
  | validation payload => rfl

/-- They stay alike if their entity is replaced by another. -/
theorem map {δ : Type} (change : ε → δ) (alike : event.Alike event')
    : (event.map change).Alike (event'.map change) := by
  cases alike with
  | pre write entity same => exact .pre write _ same
  | post write entity same => exact .post write _ same
  | preLoad entity same => exact .preLoad _ same
  | postLoad entity same => exact .postLoad _ same
  | saveOrUpdate entity same => exact .saveOrUpdate _ same
  | validation payload => exact .validation _

theorem isStamping (alike : event.Alike event') (decision : Decision)
    : event'.isStamping decision = event.isStamping decision := by
  cases alike with
  | pre write => cases write <;> rfl
  | post | preLoad | postLoad | validation => rfl
  | saveOrUpdate entity same => cases same <;> rfl

variable [Entity ε μ]

theorem callback (alike : event.Alike event')
    : (event'.callback : ε → Script ε μ ε _) = event.callback := by
  cases alike <;> rfl

/-- A listener attends to both in the same way, since no hook is told of a factory. -/
theorem attend (alike : event.Alike event') (listener : Listener) (services : Services ε μ)
    : listener.attend services event' = listener.attend services event := by
  cases alike with
  | pre | post | preLoad | postLoad | validation => rfl
  | saveOrUpdate entity same => cases same <;> rfl

/-- Both stamp the same entities. -/
theorem isDue (alike : event.Alike event') (services : Services ε μ) (start : ε × State μ)
    : event'.isDue services start = event.isDue services start := by
  unfold Event.isDue
  rw [alike.callback]
  simp only [alike.isStamping]

end Event.Alike

-----------------------------------------------------------------------------------------
-- Interceptors of one datastore
-----------------------------------------------------------------------------------------

/-- An event belongs to the datastore by the numbers of factories alone. -/
theorem Policy.owns_eq_of_ids {policy policy' : Policy} (home : policy'.home.id = policy.home.id)
    {factory factory' : Option SessionFactory}
    (same : factory'.map SessionFactory.id = factory.map SessionFactory.id) (cls : EntityClass)
    : policy'.owns cls factory' = policy.owns cls factory := by
  have numbers (policy : Policy) (factory : Option SessionFactory)
      : factory.all (· == policy.home)
        = (factory.map SessionFactory.id).all (· == policy.home.id) := by
    cases factory <;> rfl
  rw [owns, owns, numbers, numbers, home, same]

/-- What happened, whatever the factories are called. -/
def Occurrence.unnamed : Occurrence ε → Occurrence ε
  | .sought cls factory => .sought cls (factory.map (fun known => ⟨known.id, ""⟩))
  | other => other

namespace Interceptor

/-- The interceptor with another name for its datastore's session factory. -/
def renamed (interceptor : Interceptor ε μ) (name : String) : Interceptor ε μ :=
  { interceptor with home := ⟨interceptor.home.id, name⟩ }

variable (interceptor : Interceptor ε μ) (name : String)

section Search

variable (services : Services ε μ) (within : Chronicles ε μ) (cls : EntityClass)
  {factory factory' : Option SessionFactory}
  (same : factory'.map SessionFactory.id = factory.map SessionFactory.id)

include same

/-- A listener is looked for in the same way. -/
theorem findWith_alike
    : (interceptor.renamed name).findWith services cls factory'
      = interceptor.findWith services cls factory := by
  have owns : (interceptor.renamed name).owns cls factory' = interceptor.owns cls factory :=
    Policy.owns_eq_of_ids rfl same cls
  have eligible
      : (interceptor.renamed name).isEligible services cls factory'
        = interceptor.isEligible services cls factory := by
    rw [isEligible, isEligible, owns]
    rfl
  have resolves
      : (interceptor.renamed name).resolve services cls factory'
        = interceptor.resolve services cls factory := by
    rw [resolve, resolve, eligible]
    rfl
  rw [findWith, findWith, resolves]

/-- The mapping is asked about the same classes, and does the same when it is. -/
theorem checkChronicle_alike
    : (interceptor.renamed name).checkChronicle services within cls factory'
      = interceptor.checkChronicle services within cls factory := by
  have owns : (interceptor.renamed name).owns cls factory' = interceptor.owns cls factory :=
    Policy.owns_eq_of_ids rfl same cls
  funext state
  rw [checkChronicle, checkChronicle, owns]
  rfl

/-- The same happens on the way, whatever the factories are called. -/
theorem findChronicle_unnamed (state : State μ)
    : ((interceptor.renamed name).findChronicle services within cls factory' state).map
          Occurrence.unnamed
      = (interceptor.findChronicle services within cls factory state).map Occurrence.unnamed := by
  have named
      : factory'.map (fun known => (⟨known.id, ""⟩ : SessionFactory))
        = factory.map (fun known => ⟨known.id, ""⟩) := by
    have number := congrArg (Option.map (fun id => (⟨id, ""⟩ : SessionFactory))) same
    rwa [Option.map_map, Option.map_map] at number
  rw [findChronicle, findChronicle, interceptor.checkChronicle_alike name services within cls same,
    List.map_cons, List.map_cons, Occurrence.unnamed, Occurrence.unnamed, named]

end Search

theorem findWith_renamed (services : Services ε μ)
    : (interceptor.renamed name).findWith services = interceptor.findWith services := by
  funext cls factory
  exact interceptor.findWith_alike name services cls rfl

theorem findChronicle_renamed (services : Services ε μ) (within : Chronicles ε μ)
    : (interceptor.renamed name).findChronicle services within
      = interceptor.findChronicle services within := by
  funext cls factory state
  rw [findChronicle, findChronicle, interceptor.checkChronicle_alike name services within cls rfl]

variable [Entity ε μ]

/-- Two interceptors of one datastore deal with an event in the same way. -/
theorem dispatchWith_renamed (services : Services ε μ)
    : (interceptor.renamed name).dispatchWith services = interceptor.dispatchWith services := by
  have finds
      : (interceptor.renamed name).findForWith services = interceptor.findForWith services := by
    funext entity factory
    cases entity with
    | none => rfl
    | some entity => exact interceptor.findWith_alike name services (Entity.cls entity) rfl
  have routes {κ α : Type}
      : (interceptor.renamed name).route (κ := κ) (α := α) services
        = interceptor.route services := by
    funext factory ignored reaction
    rw [route, route, finds]
  unfold dispatchWith handleWith onPreWith onPostWith onPreLoadWith onPostLoadWith
    onSaveOrUpdateWith onValidationWith
  simp only [routes]

/-- They answer the calls of hooks and checks in the same way. -/
theorem servicesTo_renamed (depth : Nat)
    : (interceptor.renamed name).servicesTo depth = interceptor.servicesTo depth := by
  induction depth with
  | zero => rfl
  | succ depth ih =>
      rw [servicesTo, servicesTo, ih, interceptor.findWith_renamed,
        interceptor.dispatchWith_renamed]

-----------------------------------------------------------------------------------------
-- Dispatches
-----------------------------------------------------------------------------------------

variable (services : Services ε μ) (within : Chronicles ε μ)
  {announcement announcement' : Announcement ε}

/-- Events that are alike end alike, and leave the same of their entity and of everything else. -/
theorem outcome_dispatchWith_alike (alike : announcement.Alike announcement') (state : State μ)
    : let ends := (interceptor.dispatchWith services).outcome (announcement, state)
      let ends' := ((interceptor.renamed name).dispatchWith services).outcome (announcement', state)
      ends'.1 = ends.1 ∧ ends.2.1.Alike ends'.2.1 ∧ ends'.2.2 = ends.2.2 := by
  cases carried : announcement.event.entity with
  | none =>
      have carried' : announcement'.event.entity = none := alike.event.entity.trans carried
      rw [interceptor.outcome_dispatchWith_of_none services carried,
        (interceptor.renamed name).outcome_dispatchWith_of_none services carried']
      exact ⟨rfl, alike, rfl⟩
  | some entity =>
      have carried' : announcement'.event.entity = some entity := alike.event.entity.trans carried
      rw [interceptor.outcome_dispatchWith_of_entity services carried,
        (interceptor.renamed name).outcome_dispatchWith_of_entity services carried',
        interceptor.findWith_alike name services _ alike.event.factory]
      rcases (interceptor.findWith services (Entity.cls entity)
          announcement.event.factory).outcome state with ⟨stop | _ | listener, reached⟩
      · exact ⟨rfl, alike, rfl⟩
      · exact ⟨rfl, alike, rfl⟩
      · dsimp only
        rw [alike.event.attend]
        generalize (listener.attend services announcement.event).outcome (entity, reached) = ended
        exact ⟨rfl, ⟨alike.event.map _, congrArg (· || _) alike.cancelled⟩, rfl⟩

/-- The same entity is stamped, in the same state. -/
theorem dueWith_alike (alike : announcement.Alike announcement') (state : State μ)
    : (interceptor.renamed name).dueWith services announcement' state
      = interceptor.dueWith services announcement state := by
  unfold dueWith
  rw [alike.event.entity]
  cases announcement.event.entity with
  | none => rfl
  | some entity =>
      dsimp only
      rw [interceptor.findWith_alike name services _ alike.event.factory, alike.event.callback]
      simp only [alike.event.isDue]

/-- The same happens in the course of both, whatever the factories are called. -/
theorem dispatchChronicle_unnamed (alike : announcement.Alike announcement') (state : State μ)
    : ((interceptor.renamed name).dispatchChronicle services within announcement' state).map
          Occurrence.unnamed
      = (interceptor.dispatchChronicle services within announcement state).map
          Occurrence.unnamed := by
  obtain ⟨-, left, -⟩ := interceptor.outcome_dispatchWith_alike name services alike state
  have leads
      : ((interceptor.renamed name).leadChronicle services within announcement' state).map
            Occurrence.unnamed
        = (interceptor.leadChronicle services within announcement state).map
            Occurrence.unnamed := by
    unfold leadChronicle
    rw [alike.event.entity]
    cases announcement.event.entity with
    | none => rfl
    | some entity =>
        dsimp only
        rw [interceptor.findWith_alike name services _ alike.event.factory, alike.event.callback,
          alike.event.kind, List.map_append, List.map_append,
          interceptor.findChronicle_unnamed name services within _ alike.event.factory]
  rw [dispatchChronicle, dispatchChronicle, List.map_append, List.map_append, leads,
    interceptor.dueWith_alike name services alike, alike.event.kind, left.event.entity]

/-- The same happens in the course of the calls of hooks and checks. -/
theorem chroniclesTo_renamed (depth : Nat)
    : (interceptor.renamed name).chroniclesTo depth = interceptor.chroniclesTo depth := by
  induction depth with
  | zero => rfl
  | succ depth ih =>
      have dispatches (services : Services ε μ) (within : Chronicles ε μ)
          : (interceptor.renamed name).dispatchChronicle services within
            = interceptor.dispatchChronicle services within := by
        funext announcement state
        unfold dispatchChronicle leadChronicle dueWith
        rw [interceptor.findWith_renamed, interceptor.findChronicle_renamed,
          interceptor.dispatchWith_renamed]
      rw [chroniclesTo, chroniclesTo, ih, interceptor.servicesTo_renamed,
        interceptor.findChronicle_renamed, dispatches]

end Interceptor

end Lifecycle
