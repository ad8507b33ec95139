import Lifecycle.Proofs.Nesting.Calls
import Lifecycle.Proofs.Nesting.Correspondence

/-! Entities that write down which of their hooks are called. Every entity can be made to do so, and
its hooks still do what they did. What a recording shows of an interceptor is therefore true of the
interceptor, whatever the hooks are.
-/

namespace Lifecycle

-----------------------------------------------------------------------------------------
-- Recorded entities
-----------------------------------------------------------------------------------------

/-- An entity, with the hooks that have been called on it so far. -/
structure Recorded (ε : Type) where
  entity : ε
  called : List Hook

variable {ε μ own own' α β : Type}

/-- The entity, on which no hook has been called yet. -/
def Recorded.of (entity : ε) : Recorded ε := ⟨entity, []⟩

/-- A script that does the same where entities are recorded. It works on a part of what it is given,
and the entities that it announces have new records.
-/
def Script.recorded (view : own' → own) (put : own → own' → own')
    : Script ε μ own α → Script (Recorded ε) μ own' α :=
  Script.translate Recorded.of Recorded.entity view put

def Recorded.put (entity : ε) (mine : Recorded ε) : Recorded ε := { mine with entity }

/-- The script of a hook of a recorded entity: it is written down first, and then it is run. -/
def Recorded.script (hook : Hook) (script : Script ε μ ε α)
    : Script (Recorded ε) μ (Recorded ε) α :=
  .access (fun (mine, memory) => ({ mine with called := mine.called ++ [hook] }, memory))
    (fun _ => script.recorded Recorded.entity Recorded.put)

/-- A recorded entity is an entity like the one that is recorded. -/
instance [Entity ε μ] : Entity (Recorded ε) μ where
  cls mine := Entity.cls mine.entity
  stamps mine := Entity.stamps mine.entity
  withStamps mine stamps := { mine with entity := Entity.withStamps mine.entity stamps }
  autoValidate mine := Entity.autoValidate mine.entity
  validationErrors mine := Entity.validationErrors mine.entity
  before mine write := Recorded.script (.before write) (Entity.before mine.entity write)
  receive mine notice := Recorded.script notice.hook (Entity.receive mine.entity notice)

/-- The same interceptor where entities are recorded. -/
def Interceptor.recorded (interceptor : Interceptor ε μ) : Interceptor (Recorded ε) μ :=
  { interceptor with
    mapping := fun cls => (interceptor.mapping cls).recorded id (fun mine _ => mine) }

-----------------------------------------------------------------------------------------
-- What is recorded comes to the same
-----------------------------------------------------------------------------------------

/-- States are similar to themselves. -/
theorem State.similarity_eq : State.Similarity (Eq : State μ → State μ → Prop) where
  memory := congrArg State.memory
  readings := congrArg State.readings
  remember same _ := by rw [same]
  read same _ := by rw [same]

section

variable {copy : Services (Recorded ε) μ} {services : Services ε μ}

/-- A recorded script comes to the same as the script. -/
theorem agrees_recorded (agree : copy.Agree Recorded.entity Eq services) (view : own' → own)
    (put : own → own' → own') (law : ∀ part mine, view (put part mine) = part)
    (script : Script ε μ own α)
    : ((script.recorded view put).run copy).Agrees (Beside view Eq) (script.run services) :=
  .run State.similarity_eq agree rfl view put law script

/-- A hook is written down before it runs, and then it does what it does. -/
theorem agrees_script (agree : copy.Agree Recorded.entity Eq services) (hook : Hook)
    (script : Script ε μ ε α)
    : ((Recorded.script hook script).run copy).Agrees (Beside Recorded.entity Eq)
        (script.run services) :=
  fun start start' beside =>
    agrees_recorded agree Recorded.entity Recorded.put (fun _ _ => rfl) script
      ({ start.1 with called := start.1.called ++ [hook] }, start.2) start' beside

theorem corresponds_recorded [Entity ε μ] (agree : copy.Agree Recorded.entity Eq services)
    : Corresponds Recorded.entity Eq copy services where
  cls _ := rfl
  stamps _ := rfl
  withStamps _ _ := rfl
  judgement _ _ := rfl
  before mine write := agrees_script agree (.before write) (Entity.before mine.entity write)
  receive mine notice := agrees_script agree notice.hook (Entity.receive mine.entity notice)

end

namespace Interceptor

variable {copy : Services (Recorded ε) μ} {services : Services ε μ}

/-- The listener of a class is looked for as without recording. -/
theorem agrees_findWith_recorded (interceptor : Interceptor ε μ)
    (agree : copy.Agree Recorded.entity Eq services) (cls : EntityClass)
    (factory : Option SessionFactory)
    : (interceptor.recorded.findWith copy cls factory).Agrees Eq
        (interceptor.findWith services cls factory) := by
  have decides
      : (interceptor.recorded.isEligible copy cls factory
            >>= interceptor.recorded.settle cls).Agrees Eq
          (interceptor.isEligible services cls factory >>= interceptor.settle cls) :=
    .bind
      (agrees_isEligible rfl
        (agrees_recorded agree id (fun mine _ => mine) (fun _ _ => rfl) (interceptor.mapping cls)))
      (fun _ => .refl _)
  intro state state' same
  subst same
  rw [outcome_findWith, outcome_findWith]
  cases decided : state.cache.decided? cls.id with
  | some decision => exact ⟨rfl, rfl⟩
  | none =>
      cases enters : state.cache.enter? cls.id with
      | none => exact ⟨rfl, rfl⟩
      | some taken =>
          obtain ⟨same, reached⟩ := decides { state with cache := taken.2.countCheck } _ rfl
          simp only [holding, Call.outcome_ofOutcome, Prod.ext same reached, and_self]

variable [Entity ε μ]

/-- However deep calls nest, recording them changes nothing else. -/
theorem agree_recorded (interceptor : Interceptor ε μ) (depth : Nat)
    : (interceptor.recorded.servicesTo depth).Agree Recorded.entity Eq
        (interceptor.servicesTo depth) := by
  induction depth with
  | zero => exact ⟨fun _ _ => .throw _, fun _ => .throw _, .throw _, .throw _⟩
  | succ depth ih =>
      have finds := interceptor.agrees_findWith_recorded ih
      exact ⟨finds, fun _ => .refl _, .refl _,
        agrees_dispatchWith State.similarity_eq (corresponds_recorded ih) finds⟩

/-- The listener of an entity is looked for as without recording. -/
theorem outcome_findForWith_recorded (interceptor : Interceptor ε μ) (depth : Nat)
    (entity : Option ε) (factory : Option SessionFactory) (state : State μ)
    : (interceptor.recorded.findForWith (interceptor.recorded.servicesTo depth)
          (entity.map Recorded.of) factory).outcome state
      = (interceptor.findForWith (interceptor.servicesTo depth) entity factory).outcome state := by
  have agree := interceptor.agree_recorded depth
  obtain ⟨same, reached⟩ :=
    agrees_findForWith (corresponds_recorded agree) (interceptor.agrees_findWith_recorded agree)
      (entity.map Recorded.of) factory state state rfl
  have back : (entity.map Recorded.of).map Recorded.entity = entity := by cases entity <;> rfl
  rw [back] at same reached
  exact Prod.ext same reached

/-- An event is dispatched as without recording. -/
theorem outcome_dispatchWith_recorded (interceptor : Interceptor ε μ) (depth : Nat)
    (announcement : Announcement ε) (state : State μ)
    : let recorded :=
        (interceptor.recorded.dispatchWith (interceptor.recorded.servicesTo depth)).outcome
          (announcement.map Recorded.of, state)
      let dispatched :=
        (interceptor.dispatchWith (interceptor.servicesTo depth)).outcome (announcement, state)
      recorded.1 = dispatched.1
      ∧ recorded.2.1.map Recorded.entity = dispatched.2.1
      ∧ recorded.2.2 = dispatched.2.2 := by
  have back : (announcement.map Recorded.of).map Recorded.entity = announcement := by
    rw [announcement.map_map]
    exact announcement.map_id
  exact (interceptor.agree_recorded (depth + 1)).dispatch (announcement.map Recorded.of, state)
    (announcement, state) ⟨back, rfl⟩

end Interceptor

end Lifecycle
