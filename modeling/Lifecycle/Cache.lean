import Lifecycle.Listener
import Lifecycle.Stats

/-! The cache of an interceptor, as the operations that take effect at once. Listeners and
triggers are kept in two tables that are never changed together; a lock for each class orders
the first resolutions of that class and is never taken away again.
-/

namespace Lifecycle

abbrev ThreadId := Nat

abbrev LockId := Nat

/-- A lock: who holds it, and whether a holder ever left it by a panic. -/
structure Lock where
  owner : Option ThreadId
  poisoned : Bool
  deriving DecidableEq, Repr

/-- The lock that nobody has taken yet. -/
def Lock.free : Lock := ⟨none, false⟩

/-- What an interceptor remembers of the classes it has met: the listener of a mapped class,
whether events of a class trigger a listener at all, the number of the lock of each class, three
counters, and the serial number of the next listener. A lock, once made, can be waited for by
whoever has its number, so the locks themselves are kept apart from the table.
-/
structure Cache where
  listeners : Table Listener
  triggers : Table Bool
  locks : Table LockId
  latches : List Lock
  created : Nat
  checks : Nat
  hits : Nat
  nextSerial : Nat

namespace Cache

def empty : Cache := ⟨.empty, .empty, .empty, [], 0, 0, 0, 0⟩

def countHit (cache : Cache) : Cache := { cache with hits := cache.hits + 1 }

/-- Counts a resolution that asks whether a class is eligible. -/
def countCheck (cache : Cache) : Cache := { cache with checks := cache.checks + 1 }

/-- The lock of a class, made if there is none. -/
def ensureLock (cache : Cache) (id : TypeId) : LockId × Cache :=
  match cache.locks.get? id with
  | some lock => (lock, cache)
  | none =>
      (cache.latches.length,
        { cache with
          locks := cache.locks.insert id cache.latches.length
          latches := cache.latches ++ [.free] })

def owner? (cache : Cache) (lock : LockId) : Option ThreadId :=
  cache.latches[lock]?.bind Lock.owner

/-- Takes a lock, if nobody holds it. That an earlier holder panicked does not matter: the lock
guards nothing that could be left half done.
-/
def acquire? (cache : Cache) (lock : LockId) (thread : ThreadId) : Option Cache :=
  match cache.latches[lock]? with
  | some ⟨none, poisoned⟩ =>
      some { cache with latches := cache.latches.set lock ⟨some thread, poisoned⟩ }
  | _ => none

/-- Gives a lock back, marked if the holder panicked. -/
def release (cache : Cache) (lock : LockId) (panicked : Bool) : Cache :=
  { cache with
    latches := cache.latches.modify lock (fun held => ⟨none, held.poisoned || panicked⟩) }

/-- Makes a listener with a serial number of its own. -/
def makeListener (cache : Cache) (cls : EntityClass) (config : Config) (clock : Clock)
    : Listener × Cache :=
  (.make cache.nextSerial cls config clock, { cache with nextSerial := cache.nextSerial + 1 })

/-- Keeps a listener, unless its class has one already; gives the one that is kept. Only a
listener that is kept counts as created.
-/
def addListener (cache : Cache) (listener : Listener) : Listener × Cache :=
  match cache.listeners.get? listener.cls.id with
  | some earlier => (earlier, cache)
  | none =>
      (listener,
        { cache with
          listeners := cache.listeners.insert listener.cls.id listener
          created := cache.created + 1 })

/-- Remembers whether events of a class trigger a listener. -/
def setTrigger (cache : Cache) (id : TypeId) (trigger : Bool) : Cache :=
  { cache with triggers := cache.triggers.insert id trigger }

def dropListener (cache : Cache) (id : TypeId) : Cache :=
  { cache with listeners := cache.listeners.erase id }

def dropTrigger (cache : Cache) (id : TypeId) : Cache :=
  { cache with triggers := cache.triggers.erase id }

/-- Forgets every listener and every trigger; locks and counters stay. -/
def clear (cache : Cache) : Cache :=
  { cache with listeners := .empty, triggers := .empty }

def stats (cache : Cache) : Stats :=
  ⟨cache.listeners.size, cache.triggers.size, cache.created, cache.checks, cache.hits⟩

variable (cache : Cache)

@[simp] theorem owner?_empty (lock : LockId) : empty.owner? lock = none := rfl

/-- Making sure of a lock changes nothing but the locks. -/
theorem ensureLock_frame (id : TypeId)
    : (cache.ensureLock id).2
      = { cache with
          locks := (cache.ensureLock id).2.locks
          latches := (cache.ensureLock id).2.latches } := by
  unfold ensureLock
  split <;> rfl

/-- A class that has a lock needs no other. -/
theorem ensureLock_of_known {id : TypeId} {lock : LockId}
    (known : cache.locks.get? id = some lock)
    : cache.ensureLock id = (lock, cache) := by
  simp only [ensureLock, known]

/-- After a lock has been made sure of it is the lock of its class, and every other class has the
lock it had.
-/
theorem get?_locks_ensureLock (id other : TypeId)
    : (cache.ensureLock id).2.locks.get? other
      = if other = id then some (cache.ensureLock id).1 else cache.locks.get? other := by
  unfold ensureLock
  split
  · rename_i lock found
    by_cases same : other = id
    · simp [same, found]
    · simp [same]
  · simp only [Table.get?_insert]

/-- A lock that is made is free, so nobody comes to hold one. -/
@[simp] theorem owner?_ensureLock (id : TypeId) (lock : LockId)
    : (cache.ensureLock id).2.owner? lock = cache.owner? lock := by
  unfold ensureLock
  split
  · rfl
  · simp only [owner?, List.getElem?_append]
    split
    · rfl
    · rename_i fresh
      rw [List.getElem?_eq_none (Nat.le_of_not_lt fresh)]
      rcases lock - cache.latches.length with _ | later
      · rfl
      · rfl

/-- A lock is taken only while nobody holds it, and then its taker does. -/
theorem acquire?_eq_some {lock : LockId} {thread : ThreadId} {taken : Cache}
    (acquired : cache.acquire? lock thread = some taken)
    : cache.owner? lock = none
      ∧ taken = { cache with latches := taken.latches }
      ∧ ∀ other,
          taken.owner? other = if other = lock then some thread else cache.owner? other := by
  unfold acquire? at acquired
  split at acquired
  · rename_i poisoned found
    obtain rfl := Option.some.inj acquired
    refine ⟨by simp [owner?, found], rfl, ?_⟩
    intro other
    have inside : lock < cache.latches.length := (List.getElem?_eq_some_iff.mp found).1
    by_cases same : other = lock
    · subst same
      simp [owner?, inside]
    · have apart : ¬ lock = other := fun equal => same equal.symm
      simp [owner?, same, List.getElem?_set_ne apart]
  · cases acquired

/-- A lock that exists can be taken while nobody holds it. -/
theorem acquire?_isSome {lock : LockId} (thread : ThreadId) (made : lock < cache.latches.length)
    (free : cache.owner? lock = none)
    : (cache.acquire? lock thread).isSome := by
  obtain ⟨⟨owner, poisoned⟩, found⟩ : ∃ latch, cache.latches[lock]? = some latch :=
    ⟨_, List.getElem?_eq_getElem made⟩
  rw [owner?, found, Option.bind_some] at free
  cases free
  rw [acquire?, found]
  rfl

/-- Nobody holds a lock that was given back. -/
theorem owner?_release (lock other : LockId) (panicked : Bool)
    : (cache.release lock panicked).owner? other
      = if other = lock then none else cache.owner? other := by
  simp only [owner?, release]
  by_cases same : other = lock
  · subst same
    rw [List.getElem?_modify_eq, if_pos rfl]
    rcases cache.latches[other]? with _ | held
    · rfl
    · rfl
  · rw [if_neg same, List.getElem?_modify_ne _ _ (fun equal => same equal.symm)]

/-- The lock of every class exists. -/
def Latched (cache : Cache) : Prop :=
  ∀ id lock, cache.locks.get? id = some lock → lock < cache.latches.length

/-- Taking a lock takes no lock away. -/
theorem Latched.acquire {cache taken : Cache} {lock : LockId} {thread : ThreadId}
    (latched : cache.Latched) (acquired : cache.acquire? lock thread = some taken)
    : taken.Latched := by
  unfold Cache.acquire? at acquired
  split at acquired
  · cases acquired
    intro id other known
    rw [List.length_set]
    exact latched id other known
  · cases acquired

theorem Latched.release {cache : Cache} (latched : cache.Latched) (lock : LockId)
    (panicked : Bool)
    : (cache.release lock panicked).Latched := by
  intro id other known
  simp only [Cache.release, List.length_modify]
  exact latched id other known

/-- A lock that is made for a class exists, and so do those that existed. -/
theorem Latched.ensureLock {cache : Cache} (latched : cache.Latched) (cls : TypeId)
    : (cache.ensureLock cls).2.Latched := by
  unfold Cache.ensureLock
  split
  · exact latched
  · intro id lock known
    rw [List.length_append, List.length_singleton]
    rw [Table.get?_insert] at known
    split at known
    · cases known
      exact Nat.lt_succ_self _
    · exact Nat.lt_succ_of_lt (latched id lock known)

end Cache

end Lifecycle
