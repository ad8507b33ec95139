/-! Finite maps from numbers to values. Looking a number up after an insertion or an erasure
gives what one expects, and the size counts the numbers that have a value.
-/

namespace Lifecycle

/-- A finite map from numbers; no number has two values. -/
structure Table (α : Type) where
  entries : List (Nat × α)
  distinct : (entries.map Prod.fst).Nodup

namespace Table

variable {α : Type}

def empty : Table α := ⟨[], by simp⟩

def get? (table : Table α) (id : Nat) : Option α :=
  (table.entries.find? (fun entry => entry.1 == id)).map Prod.snd

def ids (table : Table α) : List Nat := table.entries.map Prod.fst

def size (table : Table α) : Nat := table.entries.length

/-- The entries of all other numbers. -/
def others (id : Nat) (entries : List (Nat × α)) : List (Nat × α) :=
  entries.filter (fun entry => entry.1 != id)

theorem nodup_others {entries : List (Nat × α)} (id : Nat)
    (distinct : (entries.map Prod.fst).Nodup)
    : ((others id entries).map Prod.fst).Nodup :=
  distinct.sublist (List.filter_sublist.map Prod.fst)

def erase (table : Table α) (id : Nat) : Table α :=
  ⟨others id table.entries, nodup_others id table.distinct⟩

def insert (table : Table α) (id : Nat) (value : α) : Table α :=
  ⟨(id, value) :: others id table.entries, by
    refine List.nodup_cons.mpr ⟨?_, nodup_others id table.distinct⟩
    simp [others]⟩

@[simp] theorem get?_empty (id : Nat) : (empty : Table α).get? id = none := rfl

@[simp] theorem size_empty : (empty : Table α).size = 0 := rfl

theorem find?_others (entries : List (Nat × α)) (id other : Nat)
    : (others id entries).find? (fun entry => entry.1 == other)
      = if other = id then none else entries.find? (fun entry => entry.1 == other) := by
  induction entries with
  | nil => simp [others]
  | cons head rest ih =>
      unfold others at ih ⊢
      by_cases same : head.1 = id
      · by_cases asked : other = id
        · simp [asked]
        · have apart : ¬ id = other := fun equal => asked equal.symm
          simpa [same, asked, apart] using ih
      · by_cases found : head.1 = other
        · have apart : ¬ other = id := fun equal => same (found.trans equal)
          simp [found, apart]
        · simpa [same, found] using ih

/-- A number is among the numbers of a map if it has a value. -/
theorem mem_ids_iff (table : Table α) (id : Nat) : id ∈ table.ids ↔ (table.get? id).isSome := by
  simp only [ids, get?, Option.isSome_map, List.find?_isSome, List.mem_map, beq_iff_eq]

theorem nodup_ids (table : Table α) : table.ids.Nodup := table.distinct

/-- An entry is found under its number, since no other has that number. -/
theorem get?_of_mem (table : Table α) {entry : Nat × α}
    (member : entry ∈ table.entries)
    : table.get? entry.1 = some entry.2 := by
  obtain ⟨entries, distinct⟩ := table
  simp only [get?]
  induction entries with
  | nil => cases member
  | cons head rest ih =>
      obtain ⟨absent, distinct⟩ := List.nodup_cons.mp distinct
      rcases List.mem_cons.mp member with rfl | among
      · simp
      · have apart : head.1 ≠ entry.1 := fun same => absent (same ▸ List.mem_map_of_mem among)
        simpa [apart] using ih distinct among

theorem length_ids (table : Table α) : table.ids.length = table.size :=
  List.length_map Prod.fst

/-- Erasing a number hides its own value and no other. -/
theorem get?_erase (table : Table α) (id other : Nat)
    : (table.erase id).get? other = if other = id then none else table.get? other := by
  simp only [get?, erase, find?_others]
  split <;> simp

/-- Inserting a value shows it under its own number and changes no other. -/
theorem get?_insert (table : Table α) (id other : Nat) (value : α)
    : (table.insert id value).get? other
      = if other = id then some value else table.get? other := by
  by_cases same : other = id
  · simp [get?, insert, same]
  · have apart : ¬ id = other := fun equal => same equal.symm
    simp [get?, insert, find?_others, same, apart]

/-- The entries that hold a value of some kind are as many as the numbers that have one. -/
theorem countP_entries (table : Table α) (holds : α → Bool)
    : table.entries.countP (fun entry => holds entry.2)
      = (table.ids.filter (fun id => (table.get? id).any holds)).length := by
  rw [← List.countP_eq_length_filter, ids, List.countP_map]
  refine List.countP_congr (fun entry member => ?_)
  rw [Function.comp_apply, table.get?_of_mem member, Option.any_some]

/-- A number that had no value adds one to the size when it is given one. -/
theorem size_insert_of_vacant (table : Table α) {id : Nat} (value : α)
    (vacant : table.get? id = none)
    : (table.insert id value).size = table.size + 1 := by
  have absent : id ∉ table.ids := by simp [mem_ids_iff, vacant]
  have all : others id table.entries = table.entries := by
    refine List.filter_eq_self.mpr (fun entry member => ?_)
    simpa using fun same => absent (List.mem_map.mpr ⟨entry, member, same⟩)
  simp only [size, insert, all, List.length_cons]

/-- Erasing a number takes one from the size if the number had a value. -/
theorem size_erase (table : Table α) (id : Nat)
    : (table.erase id).size + (table.get? id).isSome.toNat = table.size := by
  obtain ⟨entries, distinct⟩ := table
  simp only [size, erase, get?, Option.isSome_map]
  induction entries with
  | nil => rfl
  | cons head rest ih =>
      obtain ⟨absent, distinct⟩ := List.nodup_cons.mp distinct
      have counted := ih distinct
      by_cases own : head.1 = id
      · have unlisted : rest.find? (fun entry => entry.1 == id) = none := by
          refine List.find?_eq_none.mpr (fun entry member same => absent ?_)
          exact own.trans (beq_iff_eq.mp same).symm ▸ List.mem_map_of_mem member
        rw [unlisted] at counted
        simpa [others, own] using counted
      · have kept : others id (head :: rest) = head :: others id rest := by simp [others, own]
        rw [kept, List.find?_cons_of_neg (by simp [own]), List.length_cons, List.length_cons]
        omega

end Table

end Lifecycle
