import Lifecycle.Config.Document
import Lifecycle.Proofs.Documents.Completeness
import Mathlib.Data.List.Perm.Basic

/-! What a document says of a configuration. Only the known members count, by whatever spelling of
their names and wherever they stand; members with other names come to nothing, and what is said in
another way than it should be is refused.
-/

namespace Lifecycle

-----------------------------------------------------------------------------------------
-- Spellings
-----------------------------------------------------------------------------------------

namespace Json

/-- The pieces of a string spell the text. A character is written by itself or by a code unit of its
own, and one beyond the first 65536 by a pair of surrogates.
-/
inductive Spells : List Piece → List Char → Prop where
  | nil : Spells [] []
  | char {c : Char} {pieces : List Piece} {text : List Char} (rest : Spells pieces text)
    : Spells (.char c :: pieces) (c :: text)
  | unit {c : Char} {pieces : List Piece} {text : List Char} (single : c.toNat < 0x10000)
    (rest : Spells pieces text)
    : Spells (.unit c.toNat :: pieces) (c :: text)
  | pair {c : Char} {pieces : List Piece} {text : List Char} (double : 0x10000 ≤ c.toNat)
    (rest : Spells pieces text)
    : Spells
        (.unit (0xD800 + (c.toNat - 0x10000) / 0x400)
          :: .unit (0xDC00 + (c.toNat - 0x10000) % 0x400)
          :: pieces)
        (c :: text)

namespace Spells

/-- Pieces are decoded as what they spell. -/
theorem decode_eq {pieces : List Piece} {text : List Char} (spells : Spells pieces text)
    : decode pieces = some text := by
  induction spells with
  | nil => rfl
  | char _ ih => simp [decode, ih]
  | @unit c pieces text single _ ih =>
      have valid : c.toNat.isValidChar := c.valid
      have leading : isLeading c.toNat = false := by
        simp only [isLeading, Bool.and_eq_false_iff, decide_eq_false_iff_not]
        unfold Nat.isValidChar at valid
        omega
      have trailing : isTrailing c.toNat = false := by
        simp only [isTrailing, Bool.and_eq_false_iff, decide_eq_false_iff_not]
        unfold Nat.isValidChar at valid
        omega
      rw [decode_unit leading trailing, ih, Option.map_some, Char.ofNat_toNat]
  | @pair c pieces text double _ ih =>
      have valid : c.toNat.isValidChar := c.valid
      unfold Nat.isValidChar at valid
      have leading : isLeading (0xD800 + (c.toNat - 0x10000) / 0x400) = true := by
        simp only [isLeading, Bool.and_eq_true, decide_eq_true_eq]
        omega
      have trailing : isTrailing (0xDC00 + (c.toNat - 0x10000) % 0x400) = true := by
        simp only [isTrailing, Bool.and_eq_true, decide_eq_true_eq]
        omega
      have number
          : 0x10000 + (0xD800 + (c.toNat - 0x10000) / 0x400 - 0xD800) * 0x400
              + (0xDC00 + (c.toNat - 0x10000) % 0x400 - 0xDC00)
            = c.toNat := by
        omega
      simp only [decode, leading, trailing, if_true, ih, Option.map_some, pairUp, number,
        Char.ofNat_toNat]

theorem chars (text : List Char) : Spells (text.map .char) text := by
  induction text with
  | nil => exact .nil
  | cons c rest ih => exact .char ih

theorem append {pieces later : List Piece} {text rest : List Char} (spells : Spells pieces text)
    (spells' : Spells later rest)
    : Spells (pieces ++ later) (text ++ rest) := by
  induction spells with
  | nil => exact spells'
  | char _ ih => exact .char ih
  | unit single _ ih => exact .unit single ih
  | pair double _ ih => exact .pair double ih

end Spells

end Json

namespace Config

open Json (Piece Spells Document)

-----------------------------------------------------------------------------------------
-- One member at a time
-----------------------------------------------------------------------------------------

/-- The name of a member is spelled, and is none of the two that are known. -/
def Unknown (member : List Piece × Json) : Prop :=
  ∃ text,
    Spells member.1 text ∧ text ≠ failOnErrorName.toList ∧ text ≠ packagesName.toList

namespace Fields

theorem add?_of_unknown {member : List Piece × Json} (unknown : Unknown member)
    (fields : Fields)
    : fields.add? member = some fields := by
  obtain ⟨text, spells, notFlag, notList⟩ := unknown
  simp [add?, spells.decode_eq, notFlag, notList]

/-- Takes in what the one known member says. -/
def setFailOnError? (flag : Option Bool) (fields : Fields) : Option Fields :=
  if fields.failOnError.isSome then none else flag.map ({ fields with failOnError := some · })

/-- Takes in what the other known member says. -/
def setPackages? (list : Option (List String)) (fields : Fields) : Option Fields :=
  if fields.packages.isSome then none else list.map ({ fields with packages := some · })

theorem add?_failOnError {member : List Piece × Json}
    (named : Json.decode member.1 = some failOnErrorName.toList) (fields : Fields)
    : fields.add? member = fields.setFailOnError? (readBool? member.2) := by
  simp only [add?, named, Option.bind_eq_bind, Option.bind_some, if_true, setFailOnError?]
  cases fields.failOnError <;> rfl

theorem add?_packages {member : List Piece × Json}
    (named : Json.decode member.1 = some packagesName.toList) (fields : Fields)
    : fields.add? member = fields.setPackages? (readTexts? member.2) := by
  have other : packagesName.toList ≠ failOnErrorName.toList := by decide
  simp only [add?, named, Option.bind_eq_bind, Option.bind_some, other, if_true, if_false,
    setPackages?]
  cases fields.packages <;> rfl

/-- A member is refused, comes to nothing, or says something of the one or the other known member. -/
theorem add?_cases (member : List Piece × Json)
    : (∀ fields, add? fields member = none)
      ∨ (∀ fields, add? fields member = some fields)
      ∨ (∃ flag, ∀ fields, add? fields member = fields.setFailOnError? flag)
      ∨ ∃ list, ∀ fields, add? fields member = fields.setPackages? list := by
  cases named : Json.decode member.1 with
  | none => exact .inl (fun fields => by simp [add?, named])
  | some name =>
      by_cases first : name = failOnErrorName.toList
      · subst first
        exact .inr (.inr (.inl ⟨_, add?_failOnError named⟩))
      · by_cases second : name = packagesName.toList
        · subst second
          exact .inr (.inr (.inr ⟨_, add?_packages named⟩))
        · exact .inr (.inl (fun fields => by simp [add?, named, first, second]))

/-- It does not matter in which order two members are taken in. -/
theorem add?_comm (fields : Fields) (one other : List Piece × Json)
    : (fields.add? one).bind (·.add? other) = (fields.add? other).bind (·.add? one) := by
  obtain ⟨failOnError, packages⟩ := fields
  rcases add?_cases one with tells | tells | ⟨told, tells⟩ | ⟨told, tells⟩
  all_goals rcases add?_cases other with tells' | tells' | ⟨told', tells'⟩ | ⟨told', tells'⟩
  all_goals simp only [tells, tells', Option.bind_none, Option.bind_some, Option.bind_fun_none,
    Option.bind_fun_some]
  all_goals
    cases told <;> cases told' <;> cases failOnError <;> cases packages <;> rfl

/-- Nor does it matter in which order many are. -/
theorem foldlM_add?_of_perm {members others : List (List Piece × Json)}
    (perm : members.Perm others) (fields : Fields)
    : members.foldlM add? fields = others.foldlM add? fields := by
  induction perm generalizing fields with
  | nil => rfl
  | cons member _ ih => simp [List.foldlM_cons, ih]
  | swap one other rest =>
      simp only [List.foldlM_cons, Option.bind_eq_bind]
      rw [← Option.bind_assoc, ← Option.bind_assoc, add?_comm]
  | trans _ _ ih ih' => rw [ih, ih']

/-- Members with unknown names come to nothing. -/
theorem foldlM_add?_append {extras : List (List Piece × Json)}
    (unknown : ∀ member ∈ extras, Unknown member) (members : List (List Piece × Json))
    (fields : Fields)
    : (members ++ extras).foldlM add? fields = members.foldlM add? fields := by
  have nothing (fields : Fields) : extras.foldlM add? fields = some fields := by
    induction extras with
    | nil => rfl
    | cons member rest ih =>
        rw [List.foldlM_cons, add?_of_unknown (unknown member List.mem_cons_self)]
        exact ih (fun other among => unknown other (List.mem_cons_of_mem member among))
  rw [List.foldlM_append]
  cases members.foldlM add? fields with
  | none => rfl
  | some reached => exact nothing reached

end Fields

end Config

end Lifecycle
