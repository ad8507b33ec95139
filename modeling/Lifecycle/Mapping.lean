import Lifecycle.Script

/-! Which entity types are mapped onto a database. An interceptor only ever asks a mapping context
whether it maps a class; the answer may depend on what happened before, and finding it may call
the interceptor back.
-/

namespace Lifecycle

/-- Answers whether a class is mapped. -/
abbrev MappingContext (ε μ : Type) := EntityClass → Script ε μ Unit Bool

/-- A set of mapped types. Only a type's number counts. -/
structure Mappings where
  types : List TypeId
  distinct : types.Nodup

namespace Mappings

def empty : Mappings := ⟨[], List.nodup_nil⟩

def contains (mappings : Mappings) (key : ClassKey) : Bool := mappings.types.contains key.id

/-- Maps one more type; a type that is mapped already stays mapped once. -/
def register (mappings : Mappings) (key : ClassKey) : Mappings :=
  if known : key.id ∈ mappings.types then mappings
  else ⟨key.id :: mappings.types, List.nodup_cons.mpr ⟨known, mappings.distinct⟩⟩

/-- A type is mapped after a registration if it is the registered one or was mapped before. -/
theorem contains_register (mappings : Mappings) (key other : ClassKey)
    : (mappings.register key).contains other = (other == key || mappings.contains other) := by
  unfold register contains
  split
  · rename_i known
    by_cases same : other.id = key.id
    · simp [same, known, BEq.beq]
    · simp [same, BEq.beq]
  · simp [BEq.beq]

def ofList (keys : List ClassKey) : Mappings := keys.foldl register empty

def size (mappings : Mappings) : Nat := mappings.types.length

def isEmpty (mappings : Mappings) : Bool := mappings.types.isEmpty

/-- The mapping context that answers from the set. -/
def context {ε μ : Type} (mappings : Mappings) : MappingContext ε μ :=
  fun cls => .done (mappings.contains cls.key)

end Mappings

end Lifecycle
