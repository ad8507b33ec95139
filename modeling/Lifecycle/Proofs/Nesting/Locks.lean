import Lifecycle.Interceptor.Resolution

/-! The locks of the classes in one thread of control. A class is held while a resolution of it is
under way; it can be entered if and only if it is not held, and entering it and giving its lock back
concern no other class.
-/

namespace Lifecycle

namespace Cache

/-- The lock of every class exists, and no two classes have the same one. -/
structure Paired (cache : Cache) : Prop where
  latched : cache.Latched
  apart
    : ∀ {id other lock},
        cache.locks.get? id = some lock → cache.locks.get? other = some lock → id = other

theorem paired_empty : empty.Paired :=
  ⟨fun _ _ known => (nomatch known), fun known _ => (nomatch known)⟩

variable {cache taken : Cache} {id : TypeId} {lock : LockId}

/-- The locks are what they were if the table of locks and the locks themselves are. -/
theorem Paired.frame {after : Cache} (paired : cache.Paired) (locks : after.locks = cache.locks)
    (latches : after.latches = cache.latches)
    : after.Paired := by
  refine ⟨?_, ?_⟩
  · unfold Latched
    rw [locks, latches]
    exact paired.latched
  · rw [locks]
    exact paired.apart

theorem isHeld_frame {after : Cache} (locks : after.locks = cache.locks)
    (latches : after.latches = cache.latches)
    : after.isHeld id = cache.isHeld id := by
  unfold isHeld owner?
  rw [locks, latches]

/-- A class is held if somebody has its lock. -/
theorem isHeld_of_known (known : cache.locks.get? id = some lock)
    : cache.isHeld id = (cache.owner? lock).isSome := by
  simp only [isHeld, known, Option.bind_some]

theorem isHeld_of_unknown (unknown : cache.locks.get? id = none) : cache.isHeld id = false := by
  simp only [isHeld, unknown, Option.bind_none, Option.isSome_none]

/-- A lock that is made for a class is nobody else's. -/
theorem Paired.ensureLock (paired : cache.Paired) (id : TypeId)
    : (cache.ensureLock id).2.Paired := by
  refine ⟨paired.latched.ensureLock id, ?_⟩
  intro one other lock known known'
  rw [get?_locks_ensureLock] at known known'
  -- A lock that was not there before has a number that no class had.
  have new (other : TypeId) (known : cache.locks.get? other = some (cache.ensureLock id).1)
      : other = id := by
    unfold Cache.ensureLock at known
    split at known
    · rename_i lock found
      exact paired.apart known found
    · exact absurd (paired.latched other _ known) (Nat.lt_irrefl _)
  split at known
  · split at known'
    · simp_all
    · cases known
      simp_all [new other known']
  · split at known'
    · cases known'
      simp_all [new one known]
    · exact paired.apart known known'

theorem enter?_eq (cache : Cache) (id : TypeId)
    : cache.enter? id
      = ((cache.ensureLock id).2.acquire? (cache.ensureLock id).1 0).map
          (fun taken => ((cache.ensureLock id).1, taken)) := rfl

/-- Whoever enters a class changes nothing but the locks. -/
theorem enter?_frame (enters : cache.enter? id = some (lock, taken))
    : taken = { cache with locks := taken.locks, latches := taken.latches } := by
  rw [enter?_eq] at enters
  obtain ⟨entered, acquired, same⟩ := Option.map_eq_some_iff.mp enters
  obtain ⟨rfl, rfl⟩ := Prod.mk.inj same
  obtain ⟨-, frame, -⟩ := acquire?_eq_some _ acquired
  rw [frame, ensureLock_frame]

/-- Every class keeps its lock when another is entered. -/
theorem get?_locks_enter? {other : TypeId} {known : LockId}
    (enters : cache.enter? id = some (lock, taken)) (before : cache.locks.get? other = some known)
    : taken.locks.get? other = some known := by
  rw [enter?_eq] at enters
  obtain ⟨entered, acquired, same⟩ := Option.map_eq_some_iff.mp enters
  obtain ⟨rfl, rfl⟩ := Prod.mk.inj same
  obtain ⟨-, frame, -⟩ := acquire?_eq_some _ acquired
  have locks : entered.locks = (cache.ensureLock id).2.locks := by rw [frame]
  rw [locks, get?_locks_ensureLock]
  by_cases own : other = id
  · subst own
    rw [if_pos rfl, ensureLock_of_known cache before]
  · rw [if_neg own, before]

/-- A class that is entered was not held, and then it is. -/
theorem Paired.enter (paired : cache.Paired) (enters : cache.enter? id = some (lock, taken))
    : taken.Paired
      ∧ taken.locks.get? id = some lock
      ∧ cache.isHeld id = false
      ∧ taken.isHeld id = true
      ∧ ∀ other, other ≠ id → taken.isHeld other = cache.isHeld other := by
  rw [enter?_eq] at enters
  obtain ⟨entered, acquired, same⟩ := Option.map_eq_some_iff.mp enters
  obtain ⟨rfl, rfl⟩ := Prod.mk.inj same
  obtain ⟨free, frame, owner⟩ := acquire?_eq_some _ acquired
  have locks : entered.locks = (cache.ensureLock id).2.locks := by rw [frame]
  have made := paired.ensureLock id
  have known := cache.get?_locks_ensureLock id id
  rw [if_pos rfl] at known
  have known' : entered.locks.get? id = some (cache.ensureLock id).1 := locks ▸ known
  refine ⟨⟨made.latched.acquire acquired, ?_⟩, known', ?_, ?_, ?_⟩
  · rw [locks]
    exact made.apart
  · cases before : cache.locks.get? id with
    | none => exact isHeld_of_unknown before
    | some lock =>
        rw [ensureLock_of_known cache before, owner?] at free
        rw [isHeld_of_known before, owner?, free]
        rfl
  · rw [isHeld_of_known known', owner, if_pos rfl]
    rfl
  · intro other apart
    have among := cache.get?_locks_ensureLock id other
    rw [if_neg apart] at among
    cases before : cache.locks.get? other with
    | none =>
        rw [isHeld_of_unknown before, isHeld_of_unknown]
        rw [locks, among, before]
    | some lock =>
        rw [before] at among
        have another : lock ≠ (cache.ensureLock id).1 := by
          rintro rfl
          exact apart (made.apart among known)
        rw [isHeld_of_known before, isHeld_of_known (locks ▸ among), owner, if_neg another,
          owner?_ensureLock]

/-- A class that is not held can be entered. -/
theorem Paired.exists_enter (paired : cache.Paired) (free : cache.isHeld id = false)
    : ∃ lock taken, cache.enter? id = some (lock, taken) := by
  have known := cache.get?_locks_ensureLock id id
  rw [if_pos rfl] at known
  have unowned : (cache.ensureLock id).2.owner? (cache.ensureLock id).1 = none := by
    rw [owner?_ensureLock]
    cases before : cache.locks.get? id with
    | none =>
        simp only [Cache.ensureLock, before, owner?]
        rw [List.getElem?_eq_none (Nat.le_refl _)]
        rfl
    | some lock =>
        rw [isHeld_of_known before] at free
        rw [ensureLock_of_known cache before]
        exact Option.not_isSome_iff_eq_none.mp (by simp [free])
  obtain ⟨taken, acquired⟩ :=
    Option.isSome_iff_exists.mp
      (acquire?_isSome _ 0 ((paired.ensureLock id).latched id _ known) unowned)
  refine ⟨(cache.ensureLock id).1, taken, ?_⟩
  rw [enter?_eq, acquired, Option.map_some]

/-- A class that is held cannot be entered by whoever it is that holds it. -/
theorem Paired.enter?_eq_none (paired : cache.Paired) (held : cache.isHeld id = true)
    : cache.enter? id = none := by
  cases enters : cache.enter? id with
  | none => rfl
  | some entered =>
      obtain ⟨lock, taken⟩ := entered
      obtain ⟨-, -, free, -⟩ := paired.enter enters
      cases free.symm.trans held

/-- A class whose lock is given back is not held, and that is all. -/
theorem Paired.release (paired : cache.Paired) (known : cache.locks.get? id = some lock)
    (panicked : Bool)
    : (cache.release lock panicked).Paired
      ∧ (cache.release lock panicked).isHeld id = false
      ∧ ∀ other, other ≠ id → (cache.release lock panicked).isHeld other = cache.isHeld other := by
  have same : (cache.release lock panicked).locks = cache.locks := rfl
  refine ⟨⟨paired.latched.release lock panicked, paired.apart⟩, ?_, ?_⟩
  · rw [isHeld_of_known (same ▸ known), owner?_release, if_pos rfl]
    rfl
  · intro other apart
    cases before : cache.locks.get? other with
    | none => rw [isHeld_of_unknown before, isHeld_of_unknown (same ▸ before)]
    | some another =>
        have different : another ≠ lock := by
          rintro rfl
          exact apart (paired.apart before known)
        rw [isHeld_of_known before, isHeld_of_known (same ▸ before), owner?_release,
          if_neg different]

end Cache

end Lifecycle
