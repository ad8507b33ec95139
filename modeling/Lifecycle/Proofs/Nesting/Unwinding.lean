import Lifecycle.Proofs.Nesting.Coherence

/-! Panics that pass through resolutions. Each resolution on the way gives back its lock and decides
nothing. What is left behind is what the calls that had ended left, and the resolutions that had
begun have been counted.
-/

namespace Lifecycle

namespace Deed

def isStart : Deed → Bool
  | .start .. => true
  | _ => false

/-- A listener is made. -/
def isCreation : Deed → Bool
  | .settle _ _ eligible => eligible
  | _ => false

/-- The resolutions under way after a deed, the innermost first. -/
def nest (stack : List EntityClass) : Deed → List EntityClass
  | .start cls _ => cls :: stack
  | .settle .. => stack.tail
  | .hit _ | .evict _ | .clear => stack

/-- The classes of the resolutions that begin among the deeds and are not settled. -/
def pending (deeds : List Deed) : List EntityClass := deeds.foldl nest []

end Deed

namespace Interceptor

open Deed (nest pending)

variable {ε μ : Type} {interceptor : Interceptor ε μ} {before reached : State μ}
  {deeds : List Deed} {ending : Ending}

/-- Calls that come back have settled all resolutions that they began. -/
theorem Course.foldl_nest (course : interceptor.Course before deeds ending reached)
    : (∀ stack, deeds.foldl nest stack = pending deeds ++ stack)
      ∧ (ending = .returned → pending deeds = []) := by
  induction course with
  | stays | elsewhere | hits | evicts | clears => exact ⟨fun _ => rfl, fun _ => rfl⟩
  | @append _ _ _ earlier later _ first rest ih ih' =>
      obtain ⟨whole, settled⟩ := ih
      obtain ⟨whole', settled'⟩ := ih'
      have joined (stack : List EntityClass)
          : (earlier ++ later).foldl nest stack = later.foldl nest stack := by
        rw [List.foldl_append, whole, settled rfl, List.nil_append]
      have same : pending (earlier ++ later) = pending later := joined []
      refine ⟨fun stack => ?_, fun ends => same.trans (settled' ends)⟩
      rw [joined, same, whole']
  | @settles _ _ cls factory _ _ deeds eligible undecided enters within own ih =>
      obtain ⟨whole, settled⟩ := ih
      have joined (stack : List EntityClass)
          : (Deed.start cls factory :: deeds ++ [Deed.settle cls factory eligible]).foldl nest stack
            = stack := by
        simp only [List.foldl_append, List.foldl_cons, List.foldl_nil, nest, whole, settled rfl,
          List.nil_append, List.tail_cons]
      have none : pending (.start cls factory :: deeds ++ [.settle cls factory eligible]) = [] :=
        joined []
      exact ⟨fun stack => by rw [joined, none, List.nil_append], fun _ => none⟩
  | @unwinds _ _ cls factory _ _ deeds undecided enters within ih
  | @hangs _ _ cls factory _ _ deeds undecided enters within ih =>
      obtain ⟨whole, -⟩ := ih
      have joined (stack : List EntityClass)
          : (Deed.start cls factory :: deeds).foldl nest stack = pending deeds ++ (cls :: stack) :=
        whole (cls :: stack)
      have all : pending (.start cls factory :: deeds) = pending deeds ++ [cls] := joined []
      refine ⟨fun stack => ?_, fun ends => (nomatch ends)⟩
      rw [joined, all, List.append_assoc, List.singleton_append]

/-- What calls that come back have begun adds nothing to what is pending later. -/
theorem Course.pending_append (first : interceptor.Course before deeds .returned reached)
    (later : List Deed)
    : pending (deeds ++ later) = pending later := by
  obtain ⟨whole, settled⟩ := first.foldl_nest
  rw [pending, List.foldl_append, whole, settled rfl]
  rfl

/-- A resolution is pending while what it leads to is. -/
theorem Course.pending_start (within : interceptor.Course before deeds ending reached)
    (cls : EntityClass) (factory : Option SessionFactory)
    : pending (.start cls factory :: deeds) = pending deeds ++ [cls] :=
  within.foldl_nest.1 [cls]

/-- The classes of the resolutions that a panic has passed through have neither a listener nor a
trigger.
-/
theorem Course.absent_of_pending (course : interceptor.Course before deeds ending reached)
    (tidy : interceptor.Tidy before) (panicked : ending = .panicked) {cls : EntityClass}
    (under : cls ∈ pending deeds)
    : reached.cache.listeners.get? cls.id = none ∧ reached.cache.triggers.get? cls.id = none := by
  induction course with
  | stays | elsewhere | hits | evicts | clears => cases under
  | append first rest ih ih' =>
      rw [first.pending_append] at under
      exact ih' (first.tidy tidy) panicked under
  | settles | hangs => cases panicked
  | @unwinds state middle own factory lock taken deeds undecided enters within ih =>
      rw [within.pending_start] at under
      rcases List.mem_append.mp under with deeper | outermost
      · exact ih (tidy.enter undecided enters) rfl deeper
      · obtain rfl := List.mem_singleton.mp outermost
        exact (within.inside tidy undecided enters).2.2

/-- A resolution that begins is counted. -/
theorem counts_of_enter? {cache taken : Cache} {id : TypeId} {lock : LockId}
    (enters : cache.enter? id = some (lock, taken))
    : taken.countCheck.checks = cache.checks + 1 ∧ taken.countCheck.created = cache.created := by
  rw [Cache.enter?_frame enters]
  exact ⟨rfl, rfl⟩

/-- Each resolution that begins is counted once, and each listener that is made. -/
theorem Course.counts (course : interceptor.Course before deeds ending reached)
    (tidy : interceptor.Tidy before)
    : reached.cache.checks = before.cache.checks + deeds.countP Deed.isStart
      ∧ reached.cache.created = before.cache.created + deeds.countP Deed.isCreation := by
  induction course with
  | stays | elsewhere | hits | evicts | clears => exact ⟨rfl, rfl⟩
  | append first rest ih ih' =>
      obtain ⟨checks, created⟩ := ih tidy
      obtain ⟨checks', created'⟩ := ih' (first.tidy tidy)
      simp only [List.countP_append]
      omega
  | @settles state middle cls factory lock taken deeds eligible undecided enters within own ih =>
      obtain ⟨checks, created⟩
          : middle.cache.checks = taken.countCheck.checks + deeds.countP Deed.isStart
            ∧ middle.cache.created = taken.countCheck.created + deeds.countP Deed.isCreation :=
        ih (tidy.enter undecided enters)
      obtain ⟨begun, before⟩ := counts_of_enter? enters
      obtain ⟨-, -, vacant, -⟩ := within.inside tidy undecided enters
      have settled := interceptor.settled_of_vacant cls eligible vacant
      have starts
          : (Deed.start cls factory :: deeds ++ [Deed.settle cls factory eligible]).countP
              Deed.isStart
            = deeds.countP Deed.isStart + 1 := by
        simp [List.countP_cons, Deed.isStart]
      have creations
          : (Deed.start cls factory :: deeds ++ [Deed.settle cls factory eligible]).countP
              Deed.isCreation
            = deeds.countP Deed.isCreation + eligible.toNat := by
        cases eligible <;> simp [List.countP_cons, Deed.isCreation]
      constructor
      · refine settled.counted.1.trans ?_
        rw [checks, begun, starts]
        omega
      · refine settled.created.trans ?_
        rw [created, before, creations]
        omega
  | @unwinds _ middle _ _ _ taken deeds undecided enters within ih
  | @hangs _ middle _ _ _ taken deeds undecided enters within ih =>
      obtain ⟨checks, created⟩
          : middle.cache.checks = taken.countCheck.checks + deeds.countP Deed.isStart
            ∧ middle.cache.created = taken.countCheck.created + deeds.countP Deed.isCreation :=
        ih (tidy.enter undecided enters)
      obtain ⟨begun, before⟩ := counts_of_enter? enters
      rw [List.countP_cons_of_pos rfl, List.countP_cons_of_neg Bool.false_ne_true]
      constructor
      · refine checks.trans ?_
        rw [begun]
        omega
      · exact created.trans (by rw [before])

end Interceptor

end Lifecycle
