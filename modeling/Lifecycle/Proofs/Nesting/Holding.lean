import Lifecycle.Proofs.Nesting.Calls

/-! How long locks are held. A resolution holds the lock of its class while the mapping is asked.
Whatever calls that leads to, they give back what they take and nothing else, unless they never end.
-/

namespace Lifecycle

variable {ε μ : Type}

/-- What calls that end as told have done to the locks: none is lost, none that was held is given
back, and all that they have taken are given back unless they never end.
-/
structure Cache.Returns (ending : Ending) (before after : Cache) : Prop where
  paired : after.Paired
  known : ∀ {id lock}, before.locks.get? id = some lock → after.locks.get? id = some lock
  held : ∀ {id}, before.isHeld id = true → after.isHeld id = true
  free : ending ≠ .hung → ∀ id, after.isHeld id = before.isHeld id

namespace Cache.Returns

variable {before middle after : Cache} {ending : Ending}

theorem frame (paired : before.Paired) (locks : after.locks = before.locks)
    (latches : after.latches = before.latches)
    : before.Returns ending after := by
  refine ⟨paired.frame locks latches, ?_, ?_, ?_⟩
  · exact fun known => locks ▸ known
  · exact fun held => (Cache.isHeld_frame locks latches).trans held
  · exact fun _ _ => Cache.isHeld_frame locks latches

theorem trans (first : before.Returns .returned middle) (rest : middle.Returns ending after)
    : before.Returns ending after := by
  refine ⟨rest.paired, fun known => rest.known (first.known known), ?_, ?_⟩
  · exact fun held => rest.held (first.held held)
  · exact fun ends id => (rest.free ends id).trans (first.free (by decide) id)

/-- A call that has entered a class gives the lock back, if what it does in between ends. -/
theorem release {taken : Cache} {id : TypeId} {lock : LockId} (paired : before.Paired)
    (enters : before.enter? id = some (lock, taken)) (within : taken.Returns ending middle)
    (ends : ending ≠ .hung) (last : Ending) (panicked : Bool)
    : before.Returns last (middle.release lock panicked) := by
  obtain ⟨-, known, free, held, others⟩ := paired.enter enters
  obtain ⟨released, unheld, apart⟩ := within.paired.release (within.known known) panicked
  have same (other : TypeId)
      : (middle.release lock panicked).isHeld other = before.isHeld other := by
    by_cases own : other = id
    · rw [own, unheld, free]
    · rw [apart other own, within.free ends, others other own]
  refine ⟨released, fun before => ?_, fun before => (same _).trans before, fun _ => same⟩
  exact within.known (Cache.get?_locks_enter? enters before)

/-- A call that has entered a class and never ends keeps the lock. -/
theorem keep {taken : Cache} {id : TypeId} {lock : LockId} (paired : before.Paired)
    (enters : before.enter? id = some (lock, taken)) (within : taken.Returns .hung middle)
    : before.Returns .hung middle := by
  obtain ⟨-, -, free, -, others⟩ := paired.enter enters
  refine ⟨within.paired, ?_, ?_, fun ends => absurd rfl ends⟩
  · exact fun before => within.known (Cache.get?_locks_enter? enters before)
  · intro other before
    by_cases own : other = id
    · subst own
      cases free.symm.trans before
    · exact within.held ((others other own).trans before)

end Cache.Returns

namespace Interceptor

variable {interceptor : Interceptor ε μ}

/-- Settling a class changes no lock. -/
theorem settle_locks (interceptor : Interceptor ε μ) (cls : EntityClass) (eligible : Bool)
    (state : State μ)
    : ((interceptor.settle cls eligible).outcome state).2.cache.locks = state.cache.locks
      ∧ ((interceptor.settle cls eligible).outcome state).2.cache.latches
        = state.cache.latches := by
  have enrolled (cache : Cache) (config : Config) (clock : Clock)
      : (cache.enrol cls config clock).2.locks = cache.locks
        ∧ (cache.enrol cls config clock).2.latches = cache.latches := by
    unfold Cache.enrol Cache.addListener
    dsimp only
    split <;> exact ⟨rfl, rfl⟩
  cases eligible with
  | true => exact enrolled state.cache interceptor.config state.clock
  | false => exact ⟨rfl, rfl⟩

/-- A course takes locks only for as long as its calls last. -/
theorem Course.returns {before reached : State μ} {deeds : List Deed} {ending : Ending}
    (course : interceptor.Course before deeds ending reached) (paired : before.cache.Paired)
    : before.cache.Returns ending reached.cache := by
  induction course with
  | stays | elsewhere | hits | evicts | clears => exact .frame paired rfl rfl
  | append first rest ih ih' =>
      have returns := ih paired
      exact returns.trans (ih' returns.paired)
  | @settles state middle cls factory lock taken deeds eligible undecided enters within own ih =>
      obtain ⟨inside, known, held, free⟩ := ih ((paired.enter enters).1.frame rfl rfl)
      obtain ⟨locks, latches⟩ := interceptor.settle_locks cls eligible middle
      have settled : taken.Returns .returned
          ((interceptor.settle cls eligible).outcome middle).2.cache :=
        .trans ⟨inside, known, held, free⟩ (.frame inside locks latches)
      exact .release paired enters settled (by decide) _ false
  | unwinds undecided enters within ih =>
      obtain ⟨inside, known, held, free⟩ := ih ((paired.enter enters).1.frame rfl rfl)
      exact .release paired enters ⟨inside, known, held, free⟩ (by decide) _ true
  | hangs undecided enters within ih =>
      obtain ⟨inside, known, held, free⟩ := ih ((paired.enter enters).1.frame rfl rfl)
      exact .keep paired enters ⟨inside, known, held, free⟩

end Interceptor

end Lifecycle
