import Lifecycle.Text.Path
import Mathlib.Data.List.SplitBy

/-! Paths as lists of names. A path is its names with separators between them. Where colons stand in
pairs only, a separator inside a path splits its names into those before it and those after it.
-/

namespace Lifecycle.Text.Path

-----------------------------------------------------------------------------------------
-- Names and the texts that they make up
-----------------------------------------------------------------------------------------

theorem segments_ne_nil (text : List Char) : segments text ≠ [] := by
  induction text using segments.induct with
  | case1 rest ih => simp [segments]
  | case2 c rest apart ih =>
      rw [segments]
      · cases segments rest <;> simp [pushFront]
      · exact apart
  | case3 => simp [segments]

/-- The names of a path with separators between them are the path, by induction along the names. -/
theorem intercalate_segments (text : List Char)
    : separator.intercalate (segments text) = text := by
  induction text using segments.induct with
  | case1 rest ih =>
      obtain ⟨first, others, split⟩ := List.exists_cons_of_ne_nil (segments_ne_nil rest)
      simp_all [segments, List.intercalate, separator]
  | case2 c rest apart ih =>
      obtain ⟨first, others, split⟩ := List.exists_cons_of_ne_nil (segments_ne_nil rest)
      rw [segments, split]
      · cases others <;> simp_all [pushFront, List.intercalate]
      · exact apart
  | case3 => rfl

theorem intercalate_append {names others : List (List Char)} (filled : names ≠ [])
    (filled' : others ≠ [])
    : separator.intercalate (names ++ others)
      = separator.intercalate names ++ separator ++ separator.intercalate others := by
  induction names with
  | nil => exact absurd rfl filled
  | cons name rest ih =>
      cases rest with
      | nil => simp [List.intercalate_cons_of_ne_nil filled']
      | cons next rest =>
          simp only [List.cons_append, List.intercalate_cons_cons] at ih ⊢
          simp [ih]

/-- A separator splits a path into the names before it and the names after it, unless the text
before it ends with a colon, which the separator would be taken to go with.
-/
theorem segments_append {before : List Char} (clean : before.getLast? ≠ some ':')
    (after : List Char)
    : segments (before ++ separator ++ after) = segments before ++ segments after := by
  induction before using segments.induct with
  | case1 rest ih =>
      have inner : rest.getLast? ≠ some ':' := by
        cases rest <;> simp_all [List.getLast?_cons_cons]
      simpa [segments] using ih inner
  | case2 c rest apart ih =>
      have whole : segments (c :: rest) = pushFront c (segments rest) := segments.eq_2 c rest apart
      have longer
          : segments (c :: (rest ++ separator ++ after))
            = pushFront c (segments (rest ++ separator ++ after)) := by
        apply segments.eq_2
        rintro others rfl starts
        cases rest with
        | nil => simp at clean
        | cons next rest => exact apart rest rfl (by simp_all)
      have inner : rest.getLast? ≠ some ':' := by
        cases rest <;> simp_all [List.getLast?_cons_cons]
      obtain ⟨first, others, split⟩ := List.exists_cons_of_ne_nil (segments_ne_nil rest)
      simp only [List.cons_append]
      rw [longer, whole, ih inner, split]
      simp [pushFront]
  | case3 => rfl

/-- Separators alone stand between names that are empty. -/
theorem segments_flatten_replicate (count : Nat)
    : segments (List.replicate count separator).flatten = List.replicate (count + 1) [] := by
  induction count with
  | zero => rfl
  | succ count ih => simpa [separator, segments, List.replicate_succ] using ih

-----------------------------------------------------------------------------------------
-- Separators at the end
-----------------------------------------------------------------------------------------

theorem trimSeparators_append_separator (text : List Char)
    : trimSeparators (text ++ separator) = trimSeparators text := by
  simp [trimSeparators, separator, dropSeparators]

/-- Separators that are trimmed may as well not be there, however many there are. -/
theorem trimSeparators_append_replicate (text : List Char) (count : Nat)
    : trimSeparators (text ++ (List.replicate count separator).flatten) = trimSeparators text := by
  induction count with
  | zero => simp
  | succ count ih =>
      simpa [List.replicate_succ', ← List.append_assoc, trimSeparators_append_separator] using ih

/-- A text is what trimming leaves of it, and separators. -/
theorem exists_eq_trimSeparators_append (text : List Char)
    : ∃ count, text = trimSeparators text ++ (List.replicate count separator).flatten := by
  have turned (text : List Char)
      : ∃ count, text = (List.replicate count separator).flatten ++ dropSeparators text := by
    induction text using dropSeparators.induct with
    | case1 rest ih =>
        obtain ⟨count, whole⟩ := ih
        refine ⟨count + 1, ?_⟩
        simpa [dropSeparators, List.replicate_succ, separator] using whole
    | case2 text apart => exact ⟨0, by simp [dropSeparators.eq_2 text apart]⟩
  obtain ⟨count, whole⟩ := turned text.reverse
  have back : (List.replicate count separator).flatten.reverse
      = (List.replicate count separator).flatten := by
    simp [List.reverse_flatten, separator]
  refine ⟨count, ?_⟩
  calc text = text.reverse.reverse := text.reverse_reverse.symm
    _ = ((List.replicate count separator).flatten ++ dropSeparators text.reverse).reverse :=
        congrArg List.reverse whole
    _ = trimSeparators text ++ (List.replicate count separator).flatten := by
        rw [List.reverse_append, back, trimSeparators]

/-- No separator stands at the end of the text, as none does at the end of the name of a type. -/
def EndsWithName (text : List Char) : Prop := ¬ separator <:+ text

instance : DecidablePred EndsWithName :=
  fun text => inferInstanceAs (Decidable (¬ separator <:+ text))

/-- Nothing is trimmed of a text that does not end with a separator. -/
theorem trimSeparators_of_endsWithName {text : List Char} (bare : EndsWithName text)
    : trimSeparators text = text := by
  obtain ⟨count, whole⟩ := exists_eq_trimSeparators_append text
  cases count with
  | zero => simpa using whole.symm
  | succ count =>
      refine absurd ?_ bare
      rw [whole, List.replicate_succ', List.flatten_append]
      exact ⟨trimSeparators text ++ (List.replicate count separator).flatten, by simp⟩

-----------------------------------------------------------------------------------------
-- Colons in pairs
-----------------------------------------------------------------------------------------

/-- Wherever there are colons in a text, there are two next to each other and no third. -/
def ColonsPaired (text : List Char) : Prop :=
  ∀ run ∈ text.splitBy (· == ·), ':' ∈ run → run = separator

instance : DecidablePred ColonsPaired :=
  fun text => inferInstanceAs (Decidable (∀ run ∈ text.splitBy (· == ·), _))

/-- A run of colons between a text that does not end with one and a text that does not begin with
one is a separator.
-/
theorem ColonsPaired.eq_separator {before run after : List Char}
    (paired : ColonsPaired (before ++ run ++ after)) (colons : ∀ c ∈ run, c = ':')
    (filled : run ≠ []) (clean : before.getLast? ≠ some ':') (clean' : after.head? ≠ some ':')
    : run = separator := by
  have alone : run.splitBy (· == ·) = [run] := by
    refine List.splitBy_of_isChain filled (List.Pairwise.isChain ?_)
    exact List.pairwise_of_forall_mem_list (fun c member d member' => by
      simp [colons c member, colons d member'])
  have apart : (before ++ run).splitBy (· == ·) = before.splitBy (· == ·) ++ [run] := by
    rw [List.splitBy_append, alone]
    intro c last d first
    have colon : d = ':' := colons d (List.mem_of_mem_head? first)
    simp_all
  have within : run ∈ (before ++ run ++ after).splitBy (· == ·) := by
    rw [List.splitBy_append, apart]
    · simp
    intro c last d first
    rw [List.getLast?_append_of_ne_nil _ filled] at last
    obtain rfl : c = ':' := colons c (List.mem_of_getLast? last)
    have other : d ≠ ':' := by
      rintro rfl
      exact clean' first
    simpa using other.symm
  obtain ⟨c, member⟩ := List.exists_mem_of_ne_nil run filled
  exact paired run within (colons c member ▸ member)

/-- A text is one that does not begin with a colon, and colons before it. -/
theorem exists_eq_colons_append (text : List Char)
    : ∃ front core,
        text = front ++ core ∧ (∀ c ∈ front, c = ':') ∧ core.head? ≠ some ':' := by
  induction text with
  | nil => exact ⟨[], [], by simp⟩
  | cons c text ih =>
      by_cases colon : c = ':'
      · obtain ⟨front, core, rfl, colons, clean⟩ := ih
        exact ⟨c :: front, core, by simp, by simpa [colon] using colons, clean⟩
      · exact ⟨[], c :: text, by simp, by simp, by simpa using colon⟩

/-- A text is one that does not end with a colon, and colons after it. -/
theorem exists_eq_append_colons (text : List Char)
    : ∃ core tail,
        text = core ++ tail ∧ (∀ c ∈ tail, c = ':') ∧ core.getLast? ≠ some ':' := by
  obtain ⟨front, core, whole, colons, clean⟩ := exists_eq_colons_append text.reverse
  refine ⟨core.reverse, front.reverse, ?_, by simpa using colons, by simpa using clean⟩
  rw [← List.reverse_append, ← whole, List.reverse_reverse]

/-- No colon stands next to a separator. -/
theorem ColonsPaired.clean {before after : List Char}
    (paired : ColonsPaired (before ++ separator ++ after))
    : before.getLast? ≠ some ':' ∧ after.head? ≠ some ':' := by
  obtain ⟨core, tail, rfl, colons, clean⟩ := exists_eq_append_colons before
  obtain ⟨front, core', rfl, colons', clean'⟩ := exists_eq_colons_append after
  have whole : ColonsPaired (core ++ (tail ++ separator ++ front) ++ core') := by
    simpa using paired
  have run : tail ++ separator ++ front = separator := by
    apply whole.eq_separator
    · simp only [List.mem_append]
      rintro c ((member | member) | member)
      · exact colons c member
      · simpa [separator] using member
      · exact colons' c member
    · simp [separator]
    · exact clean
    · exact clean'
  have lengths := congrArg List.length run
  simp only [List.length_append] at lengths
  obtain rfl : tail = [] := List.length_eq_zero_iff.mp (by omega)
  obtain rfl : front = [] := List.length_eq_zero_iff.mp (by omega)
  exact ⟨by simpa using clean, clean'⟩

end Lifecycle.Text.Path
