import Lifecycle.EntityClass
import Lifecycle.Proofs.Packages.Segments

/-! Which classes lie below a package. The text of a package is compared with the text of a class's
name, and that comes to comparing the lists of their names.
-/

namespace Lifecycle

namespace Text.Path

variable {package path stem : List Char}

theorem isBelow_iff
    : isBelow package path = true
      ↔ trimSeparators package ≠ [] ∧ trimSeparators package ++ separator <+: path := by
  simp [isBelow]

/-- Separators after a package make no difference. -/
theorem isBelow_append_replicate (package path : List Char) (count : Nat)
    : isBelow (package ++ (List.replicate count separator).flatten) path = isBelow package path := by
  simp [isBelow, trimSeparators_append_replicate]

/-- A path continues a stem with a separator if and only if it has the names of the stem and more. -/
theorem append_separator_prefix_iff (paired : ColonsPaired path)
    : stem ++ separator <+: path
      ↔ segments stem <+: segments path ∧ segments stem ≠ segments path := by
  constructor
  · rintro ⟨rest, rfl⟩
    rw [segments_append paired.clean.1]
    exact ⟨List.prefix_append _ _, by simpa using segments_ne_nil rest⟩
  · rintro ⟨⟨others, whole⟩, proper⟩
    have more : others ≠ [] := by
      rintro rfl
      exact proper (by simpa using whole)
    refine ⟨separator.intercalate others, ?_⟩
    have joined := intercalate_append (segments_ne_nil stem) more
    rw [whole, intercalate_segments, intercalate_segments] at joined
    exact joined.symm

/-- A path lies below what it continues with a separator, since that has nothing to be trimmed. -/
theorem isBelow_of_prefix (paired : ColonsPaired path) (clean : path.head? ≠ some ':')
    (continues : stem ++ separator <+: path)
    : isBelow stem path = true := by
  have bare : trimSeparators stem = stem := by
    apply trimSeparators_of_endsWithName
    rintro ⟨front, rfl⟩
    obtain ⟨rest, rfl⟩ := continues
    exact paired.clean.1 (by simp [separator])
  refine isBelow_iff.mpr ⟨?_, by rwa [bare]⟩
  rintro empty
  obtain rfl : stem = [] := bare.symm.trans empty
  obtain ⟨rest, rfl⟩ := continues
  exact clean rfl

/-- A path that continues a stem lies below every package around the stem. -/
theorem isBelow_intercalate_of_stem (paired : ColonsPaired path) (clean : path.head? ≠ some ':')
    (continues : stem ++ separator <+: path) {names : List (List Char)} (filled : names ≠ [])
    (leading : names <+: segments stem)
    : isBelow (separator.intercalate names) path = true := by
  obtain ⟨others, same⟩ := leading
  refine isBelow_of_prefix paired clean ?_
  by_cases last : others = []
  · obtain rfl : names = segments stem := by simpa [last] using same
    rwa [intercalate_segments]
  · have joined := intercalate_append filled last
    rw [same, intercalate_segments] at joined
    refine List.IsPrefix.trans ⟨separator.intercalate others ++ separator, ?_⟩ continues
    rw [joined]
    simp

/-- Joining the names of a path and empty ones puts separators after the path. -/
theorem intercalate_segments_append_replicate (stem : List Char) (count : Nat)
    : separator.intercalate (segments stem ++ List.replicate count [])
      = stem ++ (List.replicate count separator).flatten := by
  cases count with
  | zero => simp [intercalate_segments]
  | succ count =>
      rw [intercalate_append (segments_ne_nil stem) (by simp), ← segments_flatten_replicate,
        intercalate_segments, intercalate_segments]
      simp [List.replicate_succ]

/-- A path that lies below a package lies below every package around it. Of the names of the package
those that are only there for separators at its end are trimmed, whether all of them are given or
not.
-/
theorem isBelow_intercalate (paired : ColonsPaired path) (clean : path.head? ≠ some ':')
    (below : isBelow package path = true) {names : List (List Char)} (filled : names ≠ [])
    (leading : names <+: segments package)
    : isBelow (separator.intercalate names) path = true := by
  obtain ⟨-, continues⟩ := isBelow_iff.mp below
  obtain ⟨count, whole⟩ := exists_eq_trimSeparators_append package
  generalize trimSeparators package = stem at continues whole
  cases count with
  | zero =>
      obtain rfl : package = stem := by simpa using whole
      exact isBelow_intercalate_of_stem paired clean continues filled leading
  | succ count =>
      have ends : stem.getLast? ≠ some ':' := by
        obtain ⟨rest, rfl⟩ := continues
        exact paired.clean.1
      have split : segments package = segments stem ++ List.replicate (count + 1) [] := by
        rw [whole, List.replicate_succ, List.flatten_cons, ← List.append_assoc,
          segments_append ends, segments_flatten_replicate]
      rw [split] at leading
      rcases List.prefix_or_prefix_of_prefix leading (List.prefix_append _ _) with
        early | ⟨extra, rfl⟩
      · exact isBelow_intercalate_of_stem paired clean continues filled early
      · -- the names after the stem's are empty, and joining them gives back separators
        have empty : extra = List.replicate extra.length [] :=
          (List.prefix_replicate_iff.mp ((List.prefix_append_right_inj _).mp leading)).2
        rw [empty, intercalate_segments_append_replicate, isBelow_append_replicate]
        exact isBelow_of_prefix paired clean continues

end Text.Path

open Text.Path

/-- A class lies below a package if the names that make up the package, when separators at its end
are left out, are the first of the names that make up the class's, and not all of them. So a package
that the name of the class goes on from with anything but a separator is none of its packages, and
neither is the text that is left of the class's own name, or the empty one; separators after a
package make no difference; and a class that lies below a package lies below every package around
it. A class never lies below its own name, if that ends with a name as every type's does; it would
if its name ended with a separator.
-/
theorem EntityClass.isBelow_iff_segments (cls : EntityClass)
    (paired : ColonsPaired cls.name.toList) (clean : cls.name.toList.head? ≠ some ':')
    : (∀ package,
        cls.isBelow package = true
        ↔ trimSeparators package.toList ≠ []
          ∧ segments (trimSeparators package.toList) <+: segments cls.name.toList
          ∧ segments (trimSeparators package.toList) ≠ segments cls.name.toList)
      ∧ (∀ package c rest,
          cls.name.toList = trimSeparators package.toList ++ c :: rest
          → c ≠ ':'
          → cls.isBelow package = false)
      ∧ (∀ package,
          trimSeparators package.toList = cls.name.toList → cls.isBelow package = false)
      ∧ (EndsWithName cls.name.toList → cls.isBelow cls.name = false)
      ∧ (cls.isBelow cls.name = true ↔ separator <:+ cls.name.toList)
      ∧ cls.isBelow "" = false
      ∧ (∀ package, cls.isBelow (package ++ "::") = cls.isBelow package)
      ∧ ∀ package names,
          cls.isBelow package = true
          → names ≠ []
          → names <+: segments package.toList
          → cls.isBelow (String.ofList (separator.intercalate names)) = true := by
  have apart {package : String} {rest : List Char}
      (named : cls.name.toList = trimSeparators package.toList ++ rest)
      (other : ¬ separator <+: rest)
      : cls.isBelow package = false := by
    refine Bool.eq_false_iff.mpr (fun below => other ?_)
    have continues := (isBelow_iff.mp below).2
    rwa [named, List.prefix_append_right_inj] at continues
  have own (package : String) (same : trimSeparators package.toList = cls.name.toList)
      : cls.isBelow package = false := by
    have named : cls.name.toList = trimSeparators package.toList ++ [] := by simpa using same.symm
    exact apart named (by simp [separator])
  have trailing (package : String) : cls.isBelow (package ++ "::") = cls.isBelow package := by
    have one := isBelow_append_replicate package.toList cls.name.toList 1
    simpa [EntityClass.isBelow, separator] using one
  have ownName (bare : EndsWithName cls.name.toList) : cls.isBelow cls.name = false :=
    own _ (trimSeparators_of_endsWithName bare)
  refine ⟨?_, ?_, own, ownName, ⟨?_, ?_⟩, ?_, trailing, ?_⟩
  · intro package
    rw [EntityClass.isBelow, isBelow_iff, append_separator_prefix_iff paired]
  · intro package c rest named other
    refine apart named ?_
    rintro ⟨_, starts⟩
    cases starts
    exact other rfl
  · contrapose
    intro bare
    simp [ownName bare]
  · rintro ⟨front, ends⟩
    have below : cls.isBelow (String.ofList front) = true := by
      refine isBelow_of_prefix paired clean ?_
      simp [ends]
    have named : cls.name = String.ofList front ++ "::" := by
      apply String.toList_injective
      simp [← ends, separator]
    calc cls.isBelow cls.name
      _ = cls.isBelow (String.ofList front ++ "::") := congrArg cls.isBelow named
      _ = cls.isBelow (String.ofList front) := trailing _
      _ = true := below
  · rfl
  · intro package names below filled leading
    rw [EntityClass.isBelow, String.toList_ofList]
    exact isBelow_intercalate paired clean below filled leading

/-- A class of boxes lies below the package of shops, written with separators after it, and so below
the package around that; it lies neither below the package of shopping nor below its own name.
-/
theorem EntityClass.isBelow_iff_segments_boxes
    : let boxes : EntityClass := ⟨⟨3, "app::läden::Box<app::Book>"⟩, false⟩
      ColonsPaired boxes.name.toList
      ∧ boxes.name.toList.head? ≠ some ':'
      ∧ boxes.isBelow "app::läden::::" = true
      ∧ boxes.isBelow "app" = true
      ∧ boxes.isBelow "app::lä" = false
      ∧ boxes.isBelow boxes.name = false := by
  intro boxes
  have paired : ColonsPaired boxes.name.toList := by decide +kernel
  have clean : boxes.name.toList.head? ≠ some ':' := by decide +kernel
  obtain ⟨below, apart, -, ownName, -, -, -, around⟩ := boxes.isBelow_iff_segments paired clean
  have shops : boxes.isBelow "app::läden::::" = true := (below _).mpr (by decide +kernel)
  refine ⟨paired, clean, shops, ?_, ?_, ownName (by decide +kernel)⟩
  · exact around "app::läden::::" ["app".toList] shops (by simp) (by decide +kernel)
  · exact apart "app::lä" 'd' "en::Box<app::Book>".toList (by decide +kernel) (by decide)

end Lifecycle
