import Lifecycle.Failure
import Lifecycle.Text.Blank
import Mathlib.Data.List.Nodup

/-! Names of kinds of event, as texts are compared with them. A text names a kind if it has the
letters of the kind's name in their order, in capitals or not. No text has the letters of two names,
so it makes no difference which of them is tried first.
-/

namespace Lifecycle

namespace Text

-----------------------------------------------------------------------------------------
-- Letters and their case
-----------------------------------------------------------------------------------------

/-- The capital and the small form of a letter of ASCII, which have the same place among the capital
and among the small letters.
-/
def IsCapitalOf (capital small : Char) : Prop :=
  'A'.toNat ≤ capital.toNat
  ∧ capital.toNat ≤ 'Z'.toNat
  ∧ capital.toNat + 'a'.toNat = small.toNat + 'A'.toNat

/-- Two characters are the same, or they are the two forms of one letter. -/
def SameLetter (c d : Char) : Prop :=
  c = d ∨ IsCapitalOf c d ∨ IsCapitalOf d c

/-- Two texts are of one length, and the same character by character up to the case of letters. -/
def SameLetters (text text' : String) : Prop :=
  List.Forall₂ SameLetter text.toList text'.toList

/-- The code points at which the letters of ASCII begin and end. -/
theorem toNat_letters : 'A'.toNat = 65 ∧ 'Z'.toNat = 90 ∧ 'a'.toNat = 97 ∧ 'z'.toNat = 122 :=
  ⟨rfl, rfl, rfl, rfl⟩

theorem toNat_toLower (c : Char)
    : c.toLower.toNat
      = if 'A'.toNat ≤ c.toNat ∧ c.toNat ≤ 'Z'.toNat then c.toNat + 32 else c.toNat := by
  have within
      : c.val ≥ 'A'.val ∧ c.val ≤ 'Z'.val ↔ 'A'.toNat ≤ c.toNat ∧ c.toNat ≤ 'Z'.toNat := by
    simp only [ge_iff_le, UInt32.le_iff_toNat_le, Char.toNat_val]
  split
  next capital =>
    have small : c.toLower.val = c.val + ('a'.val - 'A'.val) :=
      congrArg Char.val (dif_pos (within.mpr capital))
    have shift : ('a'.val - 'A'.val).toNat = 32 := rfl
    rw [← Char.toNat_val, small, UInt32.toNat_add, shift, Char.toNat_val, Nat.mod_eq_of_lt]
    exact Nat.lt_of_le_of_lt (Nat.add_le_add_right capital.2 32) (by decide)
  next other => exact congrArg Char.toNat (dif_neg (mt within.mp other))

/-- Characters have the same small form if and only if they differ in case at most. -/
theorem toLower_eq_toLower_iff (c d : Char) : c.toLower = d.toLower ↔ SameLetter c d := by
  obtain ⟨first, last, first', -⟩ := toNat_letters
  rw [SameLetter, IsCapitalOf, IsCapitalOf, ← Char.toNat_inj, ← Char.toNat_inj, toNat_toLower,
    toNat_toLower]
  split <;> split <;> omega

theorem sameLetters_iff (text text' : String)
    : SameLetters text text' ↔ text.toList.map Char.toLower = text'.toList.map Char.toLower := by
  rw [SameLetters, ← List.forall₂_eq_eq_eq, List.forall₂_map_left_iff, List.forall₂_map_right_iff]
  simp only [toLower_eq_toLower_iff]

theorem sameIgnoringCase_iff (text text' : String)
    : sameIgnoringCase text.toList text'.toList = true ↔ SameLetters text text' := by
  rw [sameIgnoringCase, beq_iff_eq, sameLetters_iff]

theorem SameLetters.refl (text : String) : SameLetters text text :=
  (sameLetters_iff _ _).mpr rfl

theorem SameLetters.symm {text text' : String} (same : SameLetters text text')
    : SameLetters text' text :=
  (sameLetters_iff _ _).mpr ((sameLetters_iff _ _).mp same).symm

theorem SameLetters.trans {text text' text'' : String} (same : SameLetters text text')
    (same' : SameLetters text' text'')
    : SameLetters text text'' :=
  (sameLetters_iff _ _).mpr
    (((sameLetters_iff _ _).mp same).trans ((sameLetters_iff _ _).mp same'))

theorem isAlpha_iff (c : Char)
    : c.isAlpha = true
      ↔ 'A'.toNat ≤ c.toNat ∧ c.toNat ≤ 'Z'.toNat ∨ 'a'.toNat ≤ c.toNat ∧ c.toNat ≤ 'z'.toNat := by
  have ranges : c.isAlpha
      = (decide ('A'.val ≤ c.val ∧ c.val ≤ 'Z'.val)
        || decide ('a'.val ≤ c.val) && decide (c.val ≤ 'z'.val)) := rfl
  simp only [ranges, Bool.or_eq_true, Bool.and_eq_true, decide_eq_true_eq,
    UInt32.le_iff_toNat_le, Char.toNat_val]

theorem isAlpha_toLower (c : Char) : c.toLower.isAlpha = c.isAlpha := by
  obtain ⟨first, last, first', last'⟩ := toNat_letters
  rw [Bool.eq_iff_iff, isAlpha_iff, isAlpha_iff, toNat_toLower]
  split <;> omega

/-- A text with the letters of one that is made of letters is made of letters. -/
theorem SameLetters.isAlpha {text text' : String} (same : SameLetters text text')
    (letters : ∀ c ∈ text'.toList, c.isAlpha = true)
    : ∀ c ∈ text.toList, c.isAlpha = true := by
  intro c member
  have lowered : c.toLower ∈ text'.toList.map Char.toLower :=
    (sameLetters_iff text text').mp same ▸ List.mem_map_of_mem member
  obtain ⟨d, member', alike⟩ := List.mem_map.mp lowered
  calc c.isAlpha
    _ = c.toLower.isAlpha := (isAlpha_toLower c).symm
    _ = d.toLower.isAlpha := congrArg Char.isAlpha alike.symm
    _ = d.isAlpha := isAlpha_toLower d
    _ = true := letters d member'

theorem toNat_lt_of_isAlpha {c : Char} (letter : c.isAlpha = true) : c.toNat < 128 := by
  obtain ⟨first, last, first', last'⟩ := toNat_letters
  rw [isAlpha_iff] at letter
  omega

theorem isAlpha_of_isBlank {c : Char} (blank : isBlank c = true) : c.isAlpha = false := by
  obtain ⟨first, last, first', last'⟩ := toNat_letters
  refine Bool.eq_false_iff.mpr (fun letter => ?_)
  rw [isAlpha_iff] at letter
  simp only [isBlank, blankRanges, List.any_cons, List.any_nil, Bool.or_false, Bool.or_eq_true,
    Bool.and_eq_true, decide_eq_true_eq] at blank
  omega

-----------------------------------------------------------------------------------------
-- Foldings that go beyond the letters of ASCII
-----------------------------------------------------------------------------------------

/-- A folding replaces each character by characters. It may do anything with characters beyond ASCII,
and of those of ASCII it makes capitals small.
-/
def IsFolding (fold : Char → List Char) : Prop :=
  ∀ c, c.toNat < 128 → fold c = [c.toLower]

/-- Of texts of letters a folding leaves what ignoring their case does. -/
theorem IsFolding.flatMap_eq {fold : Char → List Char} (folding : IsFolding fold) {text : List Char}
    (letters : ∀ c ∈ text, c.isAlpha = true)
    : text.flatMap fold = text.map Char.toLower := by
  rw [List.map_eq_flatMap]
  exact List.flatMap_congr (fun c member => folding c (toNat_lt_of_isAlpha (letters c member)))

end Text

namespace EventKind

open Text (SameLetters)

-----------------------------------------------------------------------------------------
-- The names of the kinds
-----------------------------------------------------------------------------------------

theorem mem_all (kind : EventKind) : kind ∈ all := by
  cases kind with
  | pre write | post write => cases write <;> decide
  | preLoad | postLoad | saveOrUpdate | validation => decide

theorem isAlpha_name (kind : EventKind) : ∀ c ∈ kind.name.toList, c.isAlpha = true := by
  have every : all.all (fun kind => kind.name.toList.all Char.isAlpha) = true := by decide +kernel
  exact List.all_eq_true.mp (List.all_eq_true.mp every kind kind.mem_all)

/-- No two kinds have names with the same letters. -/
theorem eq_of_sameLetters_name {kind kind' : EventKind} (same : SameLetters kind.name kind'.name)
    : kind = kind' := by
  have apart : (all.map (fun kind => kind.name.toList.map Char.toLower)).Nodup := by decide +kernel
  exact List.inj_on_of_nodup_map apart kind.mem_all kind'.mem_all
    ((Text.sameLetters_iff _ _).mp same)

/-- A search through all kinds finds the one that a text names, whichever order they come in. -/
theorem find?_eq_some_iff {order : List EventKind} (complete : ∀ kind, kind ∈ order) (text : String)
    (kind : EventKind)
    : order.find? (fun kind => Text.sameIgnoringCase kind.name.toList text.toList) = some kind
      ↔ SameLetters text kind.name := by
  have sound {kind : EventKind}
      (found : order.find? (fun kind => Text.sameIgnoringCase kind.name.toList text.toList)
        = some kind)
      : SameLetters text kind.name := by
    have same : Text.sameIgnoringCase kind.name.toList text.toList = true := by
      simpa using List.find?_some found
    exact ((Text.sameIgnoringCase_iff _ _).mp same).symm
  refine ⟨sound, fun same => ?_⟩
  -- the search ends with some kind, and no other than the one that the text names can be it
  have isSome : (order.find? (fun kind =>
      Text.sameIgnoringCase kind.name.toList text.toList)).isSome = true := by
    rw [List.find?_isSome]
    exact ⟨kind, complete kind, (Text.sameIgnoringCase_iff _ _).mpr same.symm⟩
  obtain ⟨kind', found⟩ := Option.isSome_iff_exists.mp isSome
  rw [found, eq_of_sameLetters_name ((sound found).symm.trans same)]

theorem ofName?_eq_some_iff (text : String) (kind : EventKind)
    : ofName? text = some kind ↔ SameLetters text kind.name :=
  find?_eq_some_iff mem_all text kind

theorem parse_eq_ok_iff (text : String) (kind : EventKind)
    : parse text = .ok kind ↔ SameLetters text kind.name := by
  rw [← ofName?_eq_some_iff, parse]
  cases ofName? text <;> simp

theorem parse_of_unnamed {text : String} (unnamed : ∀ kind : EventKind, ¬ SameLetters text kind.name)
    : parse text = .error (.unknownEventKind text) := by
  have none : ofName? text = none := by
    refine Option.eq_none_iff_forall_ne_some.mpr (fun kind found => ?_)
    exact unnamed kind ((ofName?_eq_some_iff text kind).mp found)
  rw [parse, none]

/-- A text in which something is no letter names no kind. -/
theorem parse_of_not_isAlpha {text : String} {c : Char} (member : c ∈ text.toList)
    (other : c.isAlpha = false)
    : parse text = .error (.unknownEventKind text) := by
  refine parse_of_unnamed (fun kind same => ?_)
  rw [same.isAlpha kind.isAlpha_name c member] at other
  cases other

-----------------------------------------------------------------------------------------
-- Texts that name a kind
-----------------------------------------------------------------------------------------

/-- A text that comes to a kind's name under a folding, but does not have its letters, names no kind:
not that one, and no other either, for of letters alone a folding leaves no more than their case does.
-/
theorem parse_of_folded {fold : Char → List Char} (folding : Text.IsFolding fold) {text : String}
    {kind : EventKind} (folded : text.toList.flatMap fold = kind.name.toList.flatMap fold)
    (other : ¬ SameLetters text kind.name)
    : parse text = .error (.unknownEventKind text) := by
  refine parse_of_unnamed (fun kind' same => other ?_)
  rw [Text.sameLetters_iff]
  calc text.toList.map Char.toLower
    _ = text.toList.flatMap fold := (folding.flatMap_eq (same.isAlpha kind'.isAlpha_name)).symm
    _ = kind.name.toList.flatMap fold := folded
    _ = kind.name.toList.map Char.toLower := folding.flatMap_eq kind.isAlpha_name

/-- What is read are the names of the kinds, in capitals or not. A text is read as a kind if and only
if it has the letters of the kind's name, and one that has the letters of no name is reported as it is.
So no text is read in two ways, in whatever order the kinds are tried; to turn the case of letters
makes no difference; every kind is read from its own name; and neither a text that would be a name
under a folding of characters beyond ASCII nor one with white space around it is read as any kind.
-/
theorem parse_reads_names
    : (∀ text kind, parse text = .ok kind ↔ SameLetters text kind.name)
      ∧ (∀ text,
          (∀ kind : EventKind, ¬ SameLetters text kind.name)
          → parse text = .error (.unknownEventKind text))
      ∧ (∀ text (kind kind' : EventKind),
          SameLetters text kind.name → SameLetters text kind'.name → kind = kind')
      ∧ (∀ (order : List EventKind) text,
          order.Perm all
          → order.find? (fun kind => Text.sameIgnoringCase kind.name.toList text.toList)
            = ofName? text)
      ∧ (∀ text text',
          SameLetters text text' → ∀ kind, parse text = .ok kind ↔ parse text' = .ok kind)
      ∧ (∀ kind : EventKind, parse kind.name = .ok kind)
      ∧ (∀ fold text (kind : EventKind),
          Text.IsFolding fold
          → text.toList.flatMap fold = kind.name.toList.flatMap fold
          → ¬ SameLetters text kind.name
          → parse text = .error (.unknownEventKind text))
      ∧ ∀ front text back : String,
          front ++ back ≠ ""
          → (∀ c ∈ (front ++ back).toList, Text.isBlank c = true)
          → parse (front ++ text ++ back) = .error (.unknownEventKind (front ++ text ++ back)) := by
  refine ⟨parse_eq_ok_iff, fun _ => parse_of_unnamed, ?_, ?_, ?_, ?_, ?_, ?_⟩
  · intro text kind kind' same same'
    exact eq_of_sameLetters_name (same.symm.trans same')
  · intro order text perm
    have complete (kind : EventKind) : kind ∈ order := perm.mem_iff.mpr kind.mem_all
    refine Option.ext (fun kind => ?_)
    rw [find?_eq_some_iff complete, ofName?_eq_some_iff]
  · intro text text' same kind
    rw [parse_eq_ok_iff, parse_eq_ok_iff]
    exact ⟨same.symm.trans, same.trans⟩
  · intro kind
    exact (parse_eq_ok_iff _ _).mpr (.refl _)
  · intro fold text kind folding folded other
    exact parse_of_folded folding folded other
  · intro front text back filled blank
    have some' : (front ++ back).toList ≠ [] := by simpa using filled
    obtain ⟨c, member⟩ := List.exists_mem_of_ne_nil _ some'
    have outside : c ∈ (front ++ text ++ back).toList := by
      simp only [String.toList_append, List.mem_append] at member ⊢
      exact member.imp_left Or.inl
    exact parse_of_not_isAlpha outside (Text.isAlpha_of_isBlank (blank c member))

/-- One kind's name with its case turned is read, also by a search that goes through the kinds
backwards; with a long `s` in it, which a folding makes an `s` of, or with white space around it, it
is not.
-/
theorem parse_reads_names_postLoad
    : let fold (c : Char) : List Char := if c = 'ſ' then ['s'] else [c.toLower]
      parse "pOSTlOAD" = .ok .postLoad
      ∧ all.reverse.find? (fun kind => Text.sameIgnoringCase kind.name.toList "pOSTlOAD".toList)
        = ofName? "pOSTlOAD"
      ∧ "poſtLoad".toList.flatMap fold = EventKind.postLoad.name.toList.flatMap fold
      ∧ parse "poſtLoad" = .error (.unknownEventKind "poſtLoad")
      ∧ parse "\tPostLoad\u3000" = .error (.unknownEventKind "\tPostLoad\u3000") := by
  intro fold
  obtain ⟨-, -, -, ordered, turned, own, folded, padded⟩ := parse_reads_names
  have same : SameLetters "pOSTlOAD" EventKind.postLoad.name :=
    (Text.sameLetters_iff _ _).mpr (by decide +kernel)
  have folding : Text.IsFolding fold := by
    intro c ascii
    have other : c ≠ 'ſ' := by
      rintro rfl
      revert ascii
      decide
    exact if_neg other
  have comes : "poſtLoad".toList.flatMap fold = EventKind.postLoad.name.toList.flatMap fold := by
    decide +kernel
  have other : ¬ SameLetters "poſtLoad" EventKind.postLoad.name := by
    rw [Text.sameLetters_iff]
    decide +kernel
  refine ⟨?_, ?_, comes, folded fold _ _ folding comes other, ?_⟩
  · exact (turned _ _ same _).mpr (own .postLoad)
  · exact ordered all.reverse _ (List.reverse_perm all)
  · have blank : ("\t" ++ "\u3000").toList.all Text.isBlank = true := by decide +kernel
    exact padded "\t" "PostLoad" "\u3000" (by decide) (List.all_eq_true.mp blank)

end EventKind

end Lifecycle
