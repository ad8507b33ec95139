import Lifecycle.Proofs.Resolution.Refinement

/-! Who decided on a class. A decision is made for the event that first asks for a class after the
class was last forgotten, and it is given to every later event until it is forgotten again. So what
an event is answered depends on the event that decided, not on the event itself.
-/

namespace Lifecycle

variable {ε μ : Type}

/-- What asks for the listener of a class: a descriptor of the class, and the factory that the event
comes from.
-/
abbrev Asker := EntityClass × Option SessionFactory

/-- Who has decided on each class, after an operation. -/
def Operation.note (deciders : TypeId → Option Asker) : Operation μ → TypeId → Option Asker
  | .find none _ => deciders
  | .find (some cls) factory => fun id =>
      if id = cls.id then some ((deciders id).getD (cls, factory)) else deciders id
  | .evict key => fun id => if id = key.id then none else deciders id
  | .clear | .setClock _ => fun _ => none
  | .elsewhere _ _ => deciders

/-- Who has decided on each class, after a run of operations on a new interceptor. -/
def deciders (operations : List (Operation μ)) : TypeId → Option Asker :=
  operations.foldl Operation.note (fun _ => none)

/-- The operation makes the interceptor forget the class. -/
def Operation.Forgets (id : TypeId) : Operation μ → Prop
  | .evict key => key.id = id
  | .clear | .setClock _ => True
  | .find .. | .elsewhere .. => False

/-- After an operation a class was decided on by whoever was there before, unless it is forgotten
now, or by whoever asks now, if nobody was.
-/
theorem Operation.note_eq_some_iff {operation : Operation μ} {askers : TypeId → Option Asker}
    {id : TypeId} {asker : Asker}
    : operation.note askers id = some asker
      ↔ askers id = some asker ∧ ¬ operation.Forgets id
        ∨ askers id = none ∧ operation = .find (some asker.1) asker.2 ∧ asker.1.id = id := by
  cases operation with
  | find cls factory =>
      cases cls with
      | none => simp [note, Forgets]
      | some cls =>
          simp only [note]
          split
          · rename_i same
            subst same
            cases askers cls.id with
            | some first => simp [Forgets]
            | none =>
                constructor
                · rintro ⟨⟩
                  exact Or.inr ⟨rfl, rfl, rfl⟩
                · rintro (⟨⟨⟩, -⟩ | ⟨-, ⟨⟩, -⟩)
                  rfl
          · rename_i apart
            constructor
            · exact fun decided => Or.inl ⟨decided, not_false⟩
            · rintro (⟨decided, -⟩ | ⟨-, ⟨⟩, same⟩)
              · exact decided
              · exact absurd same.symm apart
  | evict key =>
      simp only [note]
      split
      · rename_i same
        simp [Forgets, same]
      · rename_i apart
        simp [Forgets, Ne.symm apart]
  | clear | setClock => simp [note, Forgets]
  | elsewhere => simp [note, Forgets]

/-- After a run of operations a class was decided on by whoever was there before, unless it was
forgotten, or by the first who asked for it when nobody was.
-/
theorem foldl_note_eq_some_iff {operations : List (Operation μ)} {askers : TypeId → Option Asker}
    {id : TypeId} {asker : Asker}
    : operations.foldl Operation.note askers id = some asker
      ↔ askers id = some asker ∧ (∀ operation ∈ operations, ¬ operation.Forgets id)
        ∨ ∃ earlier later,
            operations = earlier ++ .find (some asker.1) asker.2 :: later
            ∧ asker.1.id = id
            ∧ earlier.foldl Operation.note askers id = none
            ∧ ∀ operation ∈ later, ¬ operation.Forgets id := by
  induction operations generalizing askers with
  | nil => simp
  | cons operation rest ih =>
      rw [List.foldl_cons, ih, Operation.note_eq_some_iff, List.forall_mem_cons]
      constructor
      · rintro (⟨⟨before, kept⟩ | ⟨nobody, rfl, same⟩, later⟩
          | ⟨earlier, later, rfl, same, nobody, kept⟩)
        · exact Or.inl ⟨before, kept, later⟩
        · exact Or.inr ⟨[], rest, rfl, same, nobody, later⟩
        · exact Or.inr ⟨operation :: earlier, later, rfl, same, nobody, kept⟩
      · rintro (⟨before, kept, later⟩ | ⟨earlier, later, split, same, nobody, kept⟩)
        · exact Or.inl ⟨Or.inl ⟨before, kept⟩, later⟩
        · cases earlier with
          | nil =>
              obtain ⟨rfl, rfl⟩ := List.cons.inj split
              exact Or.inl ⟨Or.inr ⟨nobody, rfl, same⟩, kept⟩
          | cons first others =>
              obtain ⟨rfl, rfl⟩ := List.cons.inj split
              exact Or.inr ⟨others, later, rfl, same, nobody, kept⟩

/-- Whoever has decided on a class is the first who asked for it since it was last forgotten: nobody
had decided on it when the decider asked, and it has not been forgotten after that.
-/
theorem deciders_eq_some_iff {operations : List (Operation μ)} {id : TypeId} {asker : Asker}
    : deciders operations id = some asker
      ↔ ∃ earlier later,
          operations = earlier ++ .find (some asker.1) asker.2 :: later
          ∧ asker.1.id = id
          ∧ deciders earlier id = none
          ∧ ∀ operation ∈ later, ¬ operation.Forgets id :=
  foldl_note_eq_some_iff.trans (or_iff_right (fun ⟨decided, _⟩ => nomatch decided))

/-- Nobody has decided on a class if and only if it was forgotten after everybody who asked for it.
-/
theorem deciders_eq_none_iff {operations : List (Operation μ)} {id : TypeId}
    : deciders operations id = none
      ↔ ∀ earlier cls factory later,
          operations = earlier ++ .find (some cls) factory :: later
          → cls.id = id
          → ∃ operation ∈ later, operation.Forgets id := by
  constructor
  · rintro nobody earlier cls factory later rfl rfl
    refine Classical.byContradiction (fun kept => ?_)
    simp only [not_exists, not_and] at kept
    have decided : deciders (earlier ++ .find (some cls) factory :: later) cls.id
        = some ((deciders earlier cls.id).getD (cls, factory)) := by
      rw [deciders, List.foldl_append, List.foldl_cons]
      exact foldl_note_eq_some_iff.mpr (Or.inl ⟨if_pos rfl, kept⟩)
    cases nobody.symm.trans decided
  · intro forgotten
    cases decided : deciders operations id with
    | none => rfl
    | some asker =>
        obtain ⟨earlier, later, split, same, -, kept⟩ := deciders_eq_some_iff.mp decided
        obtain ⟨operation, member, forgets⟩ := forgotten earlier _ _ later split same
        exact absurd forgets (kept operation member)

/-- Whoever has decided on a class has asked for it. -/
theorem mem_of_deciders {operations : List (Operation μ)} {id : TypeId} {asker : Asker}
    (decided : deciders operations id = some asker)
    : .find (some asker.1) asker.2 ∈ operations ∧ asker.1.id = id := by
  obtain ⟨earlier, later, rfl, same, -, -⟩ := deciders_eq_some_iff.mp decided
  exact ⟨List.mem_append_right _ (List.mem_cons_self ..), same⟩

namespace Interceptor

/-- The mapping never calls the interceptor, does not panic, and always says the same of a class. -/
structure Steady (interceptor : Interceptor ε μ) (accepts : TypeId → Bool) : Prop where
  silent : interceptor.Silent
  constant : ∀ cls memory, (interceptor.check cls memory).1 = .ok (accepts cls.id)

/-- An asker for a class would be given a listener, if the decision were made for it. -/
def grants (interceptor : Interceptor ε μ) (accepts : TypeId → Bool) (id : TypeId) (asker : Asker)
    : Bool :=
  accepts id && interceptor.owns asker.1 asker.2

variable {interceptor : Interceptor ε μ} {accepts : TypeId → Bool}

/-- A steady mapping decides on an undecided class by what it says and by who asks. -/
theorem Steady.find_eq (steady : interceptor.Steady accepts) (memo : Memo μ) (cls : EntityClass)
    (factory : Option SessionFactory)
    : ∃ found,
        (memo.find interceptor cls factory).1 = .ok found
        ∧ (∀ id,
            (memo.find interceptor cls factory).2.decision id
            = if id = cls.id then some found else memo.decision id)
        ∧ found.isSome
          = ((memo.decision cls.id).map Option.isSome).getD
              (interceptor.grants accepts cls.id (cls, factory)) := by
  unfold Memo.find grants
  cases decided : memo.decision cls.id with
  | some decision =>
      refine ⟨decision, rfl, fun id => ?_, rfl⟩
      by_cases same : id = cls.id
      · rw [if_pos same, same, decided]
      · rw [if_neg same]
  | none =>
      unfold Memo.resolve
      cases interceptor.owns cls factory with
      | false => exact ⟨none, rfl, fun _ => rfl, by simp⟩
      | true =>
          have answers := steady.constant cls memo.memory
          rcases checked : interceptor.check cls memo.memory with ⟨result, memory⟩
          rw [checked] at answers
          obtain rfl : result = .ok (accepts cls.id) := answers
          cases accepts cls.id with
          | true => exact ⟨some _, rfl, fun _ => rfl, rfl⟩
          | false => exact ⟨none, rfl, fun _ => rfl, rfl⟩

end Interceptor

/-- What is decided of each class was decided by the askers. -/
def Memo.DecidedBy (memo : Memo μ) (interceptor : Interceptor ε μ) (accepts : TypeId → Bool)
    (askers : TypeId → Option Asker) : Prop :=
  ∀ id, (memo.decision id).map Option.isSome = (askers id).map (interceptor.grants accepts id)

theorem Memo.decidedBy_initial {interceptor : Interceptor ε μ} {accepts : TypeId → Bool}
    (clock : Clock) (memory : μ)
    : (Memo.initial clock memory).DecidedBy interceptor accepts (fun _ => none) :=
  fun _ => rfl

namespace Interceptor

variable {interceptor : Interceptor ε μ} {accepts : TypeId → Bool} {memo : Memo μ}
  {askers : TypeId → Option Asker}

/-- Every operation leaves each class to whoever has decided on it by then. -/
theorem Steady.decidedBy_perform (steady : interceptor.Steady accepts)
    (decided : memo.DecidedBy interceptor accepts askers) (operation : Operation μ)
    : (memo.perform interceptor operation).2.DecidedBy interceptor accepts
        (operation.note askers) := by
  intro id
  have before := decided id
  cases operation with
  | find cls factory =>
      cases cls with
      | none => exact before
      | some cls =>
          obtain ⟨found, -, decision, answer⟩ := steady.find_eq memo cls factory
          show ((memo.find interceptor cls factory).2.decision id).map Option.isSome = _
          simp only [decision, Operation.note]
          by_cases same : id = cls.id
          · subst same
            rw [if_pos rfl, if_pos rfl, Option.map_some, answer, before]
            cases askers cls.id <;> rfl
          · rw [if_neg same, if_neg same, before]
  | evict key =>
      by_cases same : id = key.id
      · simp [Memo.perform, Memo.forget, Operation.note, same]
      · simpa [Memo.perform, Memo.forget, Operation.note, same] using before
  | clear | setClock => rfl
  | elsewhere => exact before

/-- After every run of operations each class is left to whoever has decided on it. -/
theorem Steady.decidedBy_answers (steady : interceptor.Steady accepts)
    (decided : memo.DecidedBy interceptor accepts askers) (operations : List (Operation μ))
    : (answers (Memo.perform interceptor) memo operations).2.DecidedBy interceptor accepts
        (operations.foldl Operation.note askers) := by
  induction operations generalizing memo askers with
  | nil => exact decided
  | cons operation rest ih => exact ih (steady.decidedBy_perform decided operation)

/-- After a run of operations a class gets a listener if the mapping maps it and the event that
decided on it was the datastore's own. If nobody has decided on it, the event that asks does.
-/
theorem Steady.isSome_find [Entity ε μ] (steady : interceptor.Steady accepts) (clock : Clock)
    (memory : μ) (operations : List (Operation μ)) (cls : EntityClass)
    (factory : Option SessionFactory)
    : ∃ found reached,
        (interceptor.find cls factory).outcome
            (interceptor.after (.initial clock memory) operations)
          = (.ok found, reached)
        ∧ found.isSome
          = interceptor.grants accepts cls.id
              ((deciders operations cls.id).getD (cls, factory)) := by
  obtain ⟨-, refines, idle⟩ :=
    steady.silent.refines_answers operations (.initial clock memory) Cache.idle_empty
  obtain ⟨reached, outcome, -, -⟩ :=
    steady.silent.refines_find interceptor.services cls factory refines idle
  obtain ⟨found, answered, -, isSome⟩ :=
    steady.find_eq (answers (Memo.perform interceptor) (.initial clock memory) operations).2
      cls factory
  have decided := steady.decidedBy_answers (Memo.decidedBy_initial clock memory) operations cls.id
  refine ⟨found, reached, ?_, ?_⟩
  · rw [find, outcome, answered]
  · rw [isSome, decided]
    unfold deciders
    cases operations.foldl Operation.note (fun _ => none) cls.id <;> rfl

end Interceptor

end Lifecycle
