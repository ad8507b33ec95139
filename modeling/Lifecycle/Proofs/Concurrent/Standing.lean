import Lifecycle.Proofs.Concurrent.Vacancy

/-! The one resolution of a class, as the steps of all threads together carry it out. As long as
nothing is evicted and the mapping keeps to its word a class goes from fresh to settled without
ever going back, and only the call that is at work on the class takes it further.
-/

namespace Lifecycle.Concurrent

-----------------------------------------------------------------------------------------
-- How far the resolution of a class has come
-----------------------------------------------------------------------------------------

/-- How far the resolution of a class has come: nothing is known of it; the mapping was asked; its
listener is kept; its trigger is kept too, and with it the answer is settled.
-/
inductive Standing where
  | fresh
  | asked
  | admitted (listener : Listener)
  | settled (answer : Option Listener)

namespace Standing

/-- The listener that the cache has for the class. -/
def listener? : Standing → Option Listener
  | .fresh | .asked => none
  | .admitted listener => some listener
  | .settled answer => answer

/-- The trigger that the cache has for the class. -/
def trigger? : Standing → Option Bool
  | .settled answer => some answer.isSome
  | .fresh | .asked | .admitted _ => none

/-- How often the mapping was asked about the class. -/
def questions : Standing → Nat
  | .fresh => 0
  | .asked | .admitted _ | .settled _ => 1

/-- The resolution has begun and is not settled. -/
def IsOpen : Standing → Prop
  | .asked | .admitted _ => True
  | .fresh | .settled _ => False

/-- What is kept of the class is what the mapping says of it. -/
def Truthful (mapped : Bool) : Standing → Prop
  | .fresh | .asked => True
  | .admitted _ => mapped = true
  | .settled answer => answer.isSome = mapped

/-- A call may answer so, now and ever after. -/
def Grants (standing : Standing) : Option Listener → Prop
  | some listener => standing.listener? = some listener
  | none => standing = .settled none

/-- The resolution goes one step further, or stays where it is. -/
inductive Leads : Standing → Standing → Prop
  | stays {standing} : Leads standing standing
  | asks : Leads .fresh .asked
  | admits {listener} : Leads .asked (.admitted listener)
  | confirms {listener} : Leads (.admitted listener) (.settled (some listener))
  | rejects : Leads .asked (.settled none)

variable {standing after : Standing}

/-- An answer that was granted stays granted. -/
theorem Grants.leads {answer : Option Listener} (grants : standing.Grants answer)
    (leads : standing.Leads after)
    : after.Grants answer := by
  cases leads with
  | stays => exact grants
  | asks | admits | rejects => cases answer <;> cases grants
  | confirms =>
      cases answer with
      | none => cases grants
      | some listener => exact grants

/-- An answer granted by a resolution that is not open is the settled one. -/
theorem Grants.eq_settled {answer : Option Listener} (grants : standing.Grants answer)
    (closed : ¬ standing.IsOpen)
    : standing = .settled answer := by
  cases standing with
  | fresh => cases answer <;> cases grants
  | asked | admitted => exact absurd trivial closed
  | settled settled =>
      cases answer with
      | none => exact grants
      | some listener => exact congrArg Standing.settled grants

/-- A class with a listener whose resolution is not open is settled. -/
theorem eq_settled_of_listener {listener : Listener} (closed : ¬ standing.IsOpen)
    (found : standing.listener? = some listener)
    : standing = .settled (some listener) :=
  Grants.eq_settled (show standing.Grants (some listener) from found) closed

/-- A class whose events are known to trigger no listener is settled. -/
theorem eq_settled_of_trigger (flag : standing.trigger? = some false)
    : standing = .settled none := by
  cases standing with
  | fresh | asked | admitted => cases flag
  | settled answer =>
      cases answer with
      | none => rfl
      | some listener => cases flag

/-- A class without a listener, whose events may trigger one for all that is known, is fresh. -/
theorem eq_fresh (closed : ¬ standing.IsOpen) (absent : standing.listener? = none)
    (flag : standing.trigger? ≠ some false)
    : standing = .fresh := by
  cases standing with
  | fresh => rfl
  | asked | admitted => exact absurd trivial closed
  | settled answer =>
      cases answer with
      | none => exact absurd rfl flag
      | some listener => cases absent

end Standing

/-- The cache and the record of questions agree with the standing of the class. -/
structure Shared.Stands (shared : Shared) (id : TypeId) (standing : Standing) : Prop where
  listener : shared.cache.listeners.get? id = standing.listener?
  trigger : shared.cache.triggers.get? id = standing.trigger?
  questions : shared.consulted.count id = standing.questions

-----------------------------------------------------------------------------------------
-- What a call expects of its class
-----------------------------------------------------------------------------------------

/-- A mapping that says of a class whether it is mapped, always the same and without a panic. -/
def Tick.Follows (mapped : TypeId → Bool) (tick : Tick) : Prop :=
  ∀ cls, tick.verdict cls = if mapped cls.id then .mapped else .unmapped

/-- The standing of a class, at the stages of the call that is at work on it. -/
def Stage.Expects (standing : Standing) (mapped : Bool) : Stage → Prop
  | .relookListener => ¬ standing.IsOpen
  | .relookTrigger => ¬ standing.IsOpen ∧ standing.listener? = none
  | .countCheck | .consult => standing = .fresh
  | .insertListener => standing = .asked ∧ mapped = true
  | .insertTrigger none => standing = .asked ∧ mapped = false
  | .insertTrigger (some listener) => standing = .admitted listener
  | .release answer => standing = .settled answer
  | .unwind => False

/-- What a call expects of its class: while it is at work on it, how far it has taken it itself;
once it has an answer, that the answer may be given.
-/
def Activity.Expects (standing : TypeId → Standing) (mapped : TypeId → Bool) : Activity → Prop
  | .find cls _ (.inside _ stage) => stage.Expects (standing cls.id) (mapped cls.id)
  | .find cls _ (.countHit answer) => (standing cls.id).Grants answer
  | _ => True

variable {ground : Ground} {tick : Tick} {shared reached : Shared} {mapped : TypeId → Bool}

/-- What a call expects it goes on expecting when others take their classes further. -/
theorem Activity.Expects.leads {activity : Activity} {standing after : TypeId → Standing}
    (expects : activity.Expects standing mapped) (leads : ∀ id, (standing id).Leads (after id))
    (keeps : ∀ id, activity.WorksOn id → after id = standing id)
    : activity.Expects after mapped := by
  match activity, expects with
  | .find cls _ (.inside _ stage), expects =>
      have same : after cls.id = standing cls.id := keeps cls.id rfl
      have expects : stage.Expects (standing cls.id) (mapped cls.id) := expects
      rwa [← same] at expects
  | .find cls _ (.countHit answer), grants => exact Standing.Grants.leads grants (leads cls.id)
  | .find _ _ .lookListener, _ | .find _ _ .lookTrigger, _ | .find _ _ .ensureLock, _ => trivial
  | .find _ _ (.acquire _), _ | .evict _ _, _ | .clear _, _ => trivial

/-- What a step inside a lock leaves behind: the next stage finds what it expects, or the answer
with which the call comes back is settled.
-/
def Progress.Meets (standing : Standing) (mapped : Bool) : Progress Stage → Prop
  | .next stage => stage.Expects standing mapped
  | .finish reply => ∃ answer, reply = .found answer ∧ standing = .settled answer

/-- The step of a call at work on a class takes the class to a standing that the next stage
expects; the step that gives the lock back leaves the answer settled.
-/
theorem Stage.Goes.advances {cls : EntityClass} {lock : LockId} {stage : Stage}
    {progress : Progress Stage} {standing : Standing}
    (goes : stage.Goes ground tick cls none lock shared reached progress)
    (follows : tick.Follows mapped) (stands : shared.Stands cls.id standing)
    (truthful : standing.Truthful (mapped cls.id))
    (expects : stage.Expects standing (mapped cls.id))
    : ∃ after,
        standing.Leads after
        ∧ reached.Stands cls.id after
        ∧ after.Truthful (mapped cls.id)
        ∧ progress.Meets after (mapped cls.id) := by
  have verdict := follows cls
  cases goes with
  | relooks found =>
      have settled := Standing.eq_settled_of_listener expects (stands.listener.symm.trans found)
      exact ⟨standing, .stays, stands, truthful, settled⟩
  | misses absent =>
      exact ⟨standing, .stays, stands, truthful, expects, stands.listener.symm.trans absent⟩
  | declines flag =>
      have settled := Standing.eq_settled_of_trigger (stands.trigger.symm.trans flag)
      exact ⟨standing, .stays, stands, truthful, settled⟩
  | proceeds flag =>
      have fresh := Standing.eq_fresh expects.1 expects.2
        (fun same => flag (stands.trigger.trans same))
      exact ⟨standing, .stays, stands, truthful, fresh⟩
  | counts =>
      exact ⟨standing, .stays, ⟨stands.listener, stands.trigger, stands.questions⟩, truthful,
        expects⟩
  | disowns foreign => simp [Policy.owns] at foreign
  | panics _ panics =>
      cases same : mapped cls.id with
      | true | false => simp [panics, same] at verdict
  | maps _ yes =>
      obtain rfl : standing = .fresh := expects
      have mapped : mapped cls.id = true := by
        cases same : mapped cls.id with
        | true => rfl
        | false => simp [yes, same] at verdict
      have asked : (shared.consult cls.id).consulted.count cls.id = 1 := by
        simp [Shared.consult, stands.questions, Standing.questions]
      exact ⟨.asked, .asks, ⟨stands.listener, stands.trigger, asked⟩, trivial, rfl, mapped⟩
  | unmaps _ no =>
      obtain rfl : standing = .fresh := expects
      have unmapped : mapped cls.id = false := by
        cases same : mapped cls.id with
        | true => simp [no, same] at verdict
        | false => rfl
      have asked : (shared.consult cls.id).consulted.count cls.id = 1 := by
        simp [Shared.consult, stands.questions, Standing.questions]
      exact ⟨.asked, .asks, ⟨stands.listener, stands.trigger, asked⟩, trivial, rfl, unmapped⟩
  | inserts =>
      obtain ⟨rfl, mapped⟩ := expects
      have kept := Table.get?_insert shared.cache.listeners cls.id cls.id
        (ground.build shared cls)
      exact ⟨.admitted _, .admits,
        ⟨kept.trans (if_pos rfl), stands.trigger, stands.questions⟩, mapped, rfl⟩
  | yields occupied =>
      obtain ⟨rfl, -⟩ := expects
      exact nomatch stands.listener.symm.trans occupied
  | flags answer =>
      have kept := Table.get?_insert shared.cache.triggers cls.id cls.id answer.isSome
      cases answer with
      | none =>
          obtain ⟨rfl, unmapped⟩ := expects
          exact ⟨.settled none, .rejects,
            ⟨stands.listener, kept.trans (if_pos rfl), stands.questions⟩, unmapped.symm, rfl⟩
      | some listener =>
          obtain rfl : standing = .admitted listener := expects
          exact ⟨.settled (some listener), .confirms,
            ⟨stands.listener, kept.trans (if_pos rfl), stands.questions⟩, truthful.symm, rfl⟩
  | returns answer =>
      exact ⟨standing, .stays, ⟨stands.listener, stands.trigger, stands.questions⟩, truthful,
        answer, rfl, expects⟩
  | unwinds => exact expects.elim

/-- What the step of a call leaves behind: the call goes on, on the class on which it is at work if
it is at work on one, or it comes back with an answer that may be given, and its class is no longer
open.
-/
def Progress.Satisfies (activity : Activity) (standing : TypeId → Standing)
    (mapped : TypeId → Bool) (cls : EntityClass) : Progress Activity → Prop
  | .next later =>
      later.Expects standing mapped ∧ ∀ id, activity.WorksOn id → later.WorksOn id
  | .finish reply =>
      (∃ answer, reply = .found answer ∧ (standing cls.id).Grants answer)
      ∧ ∀ id, activity.WorksOn id → ¬ (standing id).IsOpen

/-- A class that a step keeps as it was, and about which the mapping was not asked, stands as it
did.
-/
theorem Shared.Stands.keeps {id : TypeId} {standing : Standing} (stands : shared.Stands id standing)
    (keeps : shared.Keeps reached id)
    (unasked : reached.consulted.count id = shared.consulted.count id)
    : reached.Stands id standing :=
  ⟨keeps.listeners.trans stands.listener, keeps.triggers.trans stands.trigger,
    unasked.trans stands.questions⟩

/-- A call at work on one class asks about no other. -/
theorem Stage.Goes.count_consulted {cls : EntityClass} {factory : Option SessionFactory}
    {lock : LockId} {stage : Stage} {progress : Progress Stage} {id : TypeId}
    (goes : stage.Goes ground tick cls factory lock shared reached progress) (other : cls.id ≠ id)
    : reached.consulted.count id = shared.consulted.count id := by
  cases goes with
  | maps | unmaps | panics => exact List.count_cons_of_ne other
  | relooks | misses | declines | proceeds | counts | disowns | inserts | yields | flags | returns
  | unwinds => rfl

/-- The step of a call that is not at work on a class leaves every class where it is. A call that
takes a lock must find its class not open.
-/
theorem FindPoint.Goes.satisfies {cls : EntityClass} {point : FindPoint}
    {progress : Progress FindPoint} {standing : TypeId → Standing}
    (goes : point.Goes ground tick cls none shared reached progress)
    (outside : ∀ id, ¬ (Activity.find cls none point).WorksOn id)
    (stands : ∀ id, shared.Stands id (standing id))
    (expects : (Activity.find cls none point).Expects standing mapped)
    (closed
      : ∀ lock, point = .acquire lock → shared.cache.owner? lock = none
          → ¬ (standing cls.id).IsOpen)
    : (∀ id, reached.Stands id (standing id))
      ∧ (progress.map (.find cls none)).Satisfies (.find cls none point) standing mapped cls := by
  have unasked : reached.consulted = shared.consulted := by
    cases goes with
    | inside => exact absurd rfl (outside cls.id)
    | hits | misses | declines | proceeds | counts | ensures | acquires => rfl
  constructor
  · intro id
    exact (stands id).keeps (goes.keeps (outside id)) (congrArg (List.count id) unasked)
  · cases goes with
    | hits found =>
        have grants := (stands cls.id).listener.symm.trans found
        exact ⟨grants, fun id works => absurd works (outside id)⟩
    | declines flag =>
        have grants := Standing.eq_settled_of_trigger ((stands cls.id).trigger.symm.trans flag)
        exact ⟨grants, fun id works => absurd works (outside id)⟩
    | acquires acquired =>
        have free := (Cache.acquire?_eq_some _ acquired).1
        exact ⟨closed _ rfl free, fun id works => absurd works (outside id)⟩
    | misses | proceeds | ensures => exact ⟨trivial, fun id works => absurd works (outside id)⟩
    | counts answer => exact ⟨⟨answer, rfl, expects⟩, fun id works => absurd works (outside id)⟩
    | inside => exact absurd rfl (outside cls.id)

/-- The step of a call takes its class further if it is at work on it, leaves all other classes
where they are, and keeps to what the call may expect. A call that takes a lock must find its class
not open.
-/
theorem Activity.Goes.advances {cls : EntityClass} {point : FindPoint}
    {progress : Progress Activity} {standing : TypeId → Standing}
    (goes : (Activity.find cls none point).Goes ground tick shared reached progress)
    (follows : tick.Follows mapped) (stands : ∀ id, shared.Stands id (standing id))
    (truthful : ∀ id, (standing id).Truthful (mapped id))
    (expects : (Activity.find cls none point).Expects standing mapped)
    (closed
      : ∀ lock, point = .acquire lock → shared.cache.owner? lock = none
          → ¬ (standing cls.id).IsOpen)
    : ∃ after : TypeId → Standing,
        (∀ id, (standing id).Leads (after id))
        ∧ (∀ id, ¬ (Activity.find cls none point).WorksOn id → after id = standing id)
        ∧ (∀ id, reached.Stands id (after id))
        ∧ (∀ id, (after id).Truthful (mapped id))
        ∧ progress.Satisfies (.find cls none point) after mapped cls := by
  cases goes with
  | @find _ _ _ _ progress goes =>
      have moves (outside : ∀ id, ¬ (Activity.find cls none point).WorksOn id) :=
        goes.satisfies outside stands expects closed
      cases goes with
      | hits | misses | declines | proceeds | counts | ensures | acquires =>
          obtain ⟨stands', satisfies⟩ := moves (fun _ works => works)
          exact ⟨standing, fun _ => .stays, fun _ _ => rfl, stands', truthful, satisfies⟩
      | @inside lock stage _ progress goes =>
          obtain ⟨after, leads, stands', truthful', meets⟩ :=
            goes.advances follows (stands cls.id) (truthful cls.id) expects
          -- The call is the only one at work on its class, so one class moves and no other.
          obtain ⟨moved, own, others⟩
              : ∃ moved : TypeId → Standing,
                  moved cls.id = after ∧ ∀ id, cls.id ≠ id → moved id = standing id :=
            ⟨fun id => if cls.id = id then after else standing id, if_pos rfl,
              fun _ other => if_neg other⟩
          refine ⟨moved, ?_, others, ?_, ?_, ?_⟩
          · intro id
            by_cases same : cls.id = id
            · exact same ▸ own.symm ▸ leads
            · exact others id same ▸ .stays
          · intro id
            by_cases same : cls.id = id
            · exact same ▸ own.symm ▸ stands'
            · rw [others id same]
              exact (stands id).keeps (goes.keeps same) (goes.count_consulted same)
          · intro id
            by_cases same : cls.id = id
            · exact same ▸ own.symm ▸ truthful'
            · exact others id same ▸ truthful id
          · cases progress with
            | next stage =>
                refine ⟨?_, fun id works => works⟩
                rw [← own] at meets
                exact meets
            | finish reply =>
                obtain ⟨answer, rfl, rfl⟩ := meets
                refine ⟨⟨answer, rfl, ?_⟩, ?_⟩
                · rw [own]
                  cases answer <;> rfl
                · rintro id rfl opened
                  rw [own] at opened
                  exact opened

end Lifecycle.Concurrent
