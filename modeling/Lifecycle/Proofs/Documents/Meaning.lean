import Lifecycle.Proofs.Documents.Members

/-! What documents mean. A configuration is what the known members of an object say, or the items of an
array in their places; nothing else about a document makes a difference.
-/

namespace Lifecycle.Config

open Json (Piece Spells Document)

-----------------------------------------------------------------------------------------
-- Objects that describe a configuration
-----------------------------------------------------------------------------------------

/-- The value is a list of strings that spell the texts. -/
inductive Lists : List Json → List String → Prop where
  | nil : Lists [] []
  | cons {pieces : List Piece} {text : String} {items : List Json} {texts : List String}
    (spells : Spells pieces text.toList) (rest : Lists items texts)
    : Lists (.string pieces :: items) (text :: texts)

/-- What the members of an object say, in any order: each known one is there at most once and has a
value of the right type, and the others are unknown.
-/
inductive Describes : List (List Piece × Json) → Option Bool → Option (List String) → Prop where
  | nil : Describes [] none none
  | unknown {member : List Piece × Json} {members : List (List Piece × Json)}
    {flag : Option Bool} {list : Option (List String)} (unknown : Unknown member)
    (rest : Describes members flag list)
    : Describes (member :: members) flag list
  | failOnError {name : List Piece} {members : List (List Piece × Json)}
    {list : Option (List String)} (spells : Spells name failOnErrorName.toList) (value : Bool)
    (rest : Describes members none list)
    : Describes ((name, .bool value) :: members) (some value) list
  | packages {name : List Piece} {items : List Json} {texts : List String}
    {members : List (List Piece × Json)} {flag : Option Bool}
    (spells : Spells name packagesName.toList) (lists : Lists items texts)
    (rest : Describes members flag none)
    : Describes ((name, .array items) :: members) flag (some texts)

theorem Lists.readTexts?_eq {items : List Json} {texts : List String} (lists : Lists items texts)
    : readTexts? (.array items) = some texts := by
  induction lists with
  | nil => rfl
  | @cons pieces text items texts spells _ ih =>
      have now : readText? (.string pieces) = some text := by
        rw [readText?, spells.decode_eq, Option.map_some, String.ofList_toList]
      have later : items.mapM readText? = some texts := ih
      simp [readTexts?, now, later]

/-- What is said is taken in beside what has been taken in before, if that is of other members. -/
theorem Describes.foldlM_eq {members : List (List Piece × Json)} {flag : Option Bool}
    {list : Option (List String)} (describes : Describes members flag list) (fields : Fields)
    (vacant : flag.isSome = true → fields.failOnError = none)
    (vacant' : list.isSome = true → fields.packages = none)
    : members.foldlM Fields.add? fields
      = some ⟨flag.or fields.failOnError, list.or fields.packages⟩ := by
  induction describes generalizing fields with
  | nil => rfl
  | unknown unknown _ ih =>
      rw [List.foldlM_cons, Fields.add?_of_unknown unknown]
      exact ih fields vacant vacant'
  | failOnError spells value _ ih =>
      rw [List.foldlM_cons, Fields.add?_failOnError spells.decode_eq]
      simp only [Fields.setFailOnError?, vacant rfl, readBool?]
      simp [ih ⟨some value, fields.packages⟩ (by simp) vacant']
  | @packages _ _ texts _ _ spells lists _ ih =>
      rw [List.foldlM_cons, Fields.add?_packages spells.decode_eq]
      simp only [Fields.setPackages?, vacant' rfl, lists.readTexts?_eq]
      simp [ih ⟨fields.failOnError, some texts⟩ vacant (by simp)]

/-- The configuration of what is said, and of what is left out the default. -/
def said (flag : Option Bool) (list : Option (List String)) : Config :=
  ⟨flag.getD (default : Config).failOnError, list.getD (default : Config).packages⟩

theorem Describes.ofValue?_eq {members : List (List Piece × Json)} {flag : Option Bool}
    {list : Option (List String)} (describes : Describes members flag list)
    : ofValue? (.object members) = some (said flag list) := by
  rw [ofValue?, describes.foldlM_eq ⟨none, none⟩ (fun _ => rfl) (fun _ => rfl), Option.or_none,
    Option.or_none]
  rfl

-----------------------------------------------------------------------------------------
-- Objects that are refused
-----------------------------------------------------------------------------------------

/-- A member that is refused wherever it stands makes its object describe nothing. -/
theorem ofValue?_of_refused {members : List (List Piece × Json)} {member : List Piece × Json}
    (among : member ∈ members) (refused : Fields.add? ⟨none, none⟩ member = none)
    : ofValue? (.object members) = none := by
  obtain ⟨before, after, rfl⟩ := List.append_of_mem among
  simp [ofValue?, Fields.foldlM_add?_of_perm List.perm_middle, refused]

/-- A known member that comes twice makes its object describe nothing. -/
theorem ofValue?_of_twice {members : List (List Piece × Json)} {one other : List Piece × Json}
    (twice : [one, other].Sublist members) {name : String}
    (known : name ∈ [failOnErrorName, packagesName]) (spells : Spells one.1 name.toList)
    (spells' : Spells other.1 name.toList)
    : ofValue? (.object members) = none := by
  obtain ⟨rest, perm⟩ := twice.exists_perm_append
  have refused : (Fields.add? ⟨none, none⟩ one).bind (·.add? other) = none := by
    simp only [List.mem_cons, List.not_mem_nil, or_false] at known
    rcases known with rfl | rfl
    · simp only [Fields.add?_failOnError spells.decode_eq,
        Fields.add?_failOnError spells'.decode_eq, Fields.setFailOnError?]
      cases readBool? one.2 <;> rfl
    · simp only [Fields.add?_packages spells.decode_eq, Fields.add?_packages spells'.decode_eq,
        Fields.setPackages?]
      cases readTexts? one.2 <;> rfl
  simp only [ofValue?, Fields.foldlM_add?_of_perm perm, List.cons_append, List.nil_append,
    List.foldlM_cons, Option.bind_eq_bind]
  rw [← Option.bind_assoc, refused]
  rfl

/-- The value of a known member has another type than the member should have: it is no flag, or no
list, or something in the list is no string.
-/
inductive Mistyped : List Piece × Json → Prop where
  | failOnError {name : List Piece} {value : Json} (spells : Spells name failOnErrorName.toList)
    (mistyped : ∀ flag, value ≠ .bool flag)
    : Mistyped (name, value)
  | packages {name : List Piece} {value : Json} (spells : Spells name packagesName.toList)
    (mistyped : ∀ items, value ≠ .array items)
    : Mistyped (name, value)
  | item {name : List Piece} {items : List Json} {item : Json}
    (spells : Spells name packagesName.toList) (among : item ∈ items)
    (mistyped : ∀ pieces, item ≠ .string pieces)
    : Mistyped (name, .array items)

/-- A list is no list of texts if something in it is no string. -/
theorem mapM_readText?_of_mem {items : List Json} {item : Json} (among : item ∈ items)
    (mistyped : ∀ pieces, item ≠ .string pieces)
    : items.mapM readText? = none := by
  induction items with
  | nil => cases among
  | cons first rest ih =>
      rw [List.mapM_cons]
      rcases List.mem_cons.mp among with rfl | among
      · have unread : readText? item = none := by
          cases item with
          | string pieces => exact absurd rfl (mistyped pieces)
          | null | bool | number | array | object => rfl
        simp [unread]
      · simp [ih among]

theorem Mistyped.refused {member : List Piece × Json} (mistyped : Mistyped member)
    : Fields.add? ⟨none, none⟩ member = none := by
  cases mistyped with
  | @failOnError name value spells mistyped =>
      rw [Fields.add?_failOnError spells.decode_eq]
      cases value with
      | bool flag => exact absurd rfl (mistyped flag)
      | null | number | string | array | object => rfl
  | @packages name value spells mistyped =>
      rw [Fields.add?_packages spells.decode_eq]
      cases value with
      | array items => exact absurd rfl (mistyped items)
      | null | bool | number | string | object => rfl
  | item spells among mistyped =>
      rw [Fields.add?_packages spells.decode_eq]
      simp [Fields.setPackages?, readTexts?, mapM_readText?_of_mem among mistyped]

-----------------------------------------------------------------------------------------
-- Arrays
-----------------------------------------------------------------------------------------

/-- An array of at most two items describes what the object does that has them under the known names.
-/
theorem ofValue?_array_eq {items : List Json} (short : items.length ≤ 2)
    {flagName listName : List Piece} (spells : Spells flagName failOnErrorName.toList)
    (spells' : Spells listName packagesName.toList)
    : ofValue? (.array items) = ofValue? (.object ([flagName, listName].zip items)) := by
  have flagged (value : Json) (fields : Fields)
      : fields.add? (flagName, value) = fields.setFailOnError? (readBool? value) :=
    Fields.add?_failOnError spells.decode_eq fields
  have listed (value : Json) (fields : Fields)
      : fields.add? (listName, value) = fields.setPackages? (readTexts? value) :=
    Fields.add?_packages spells'.decode_eq fields
  match items with
  | [] => rfl
  | [flag] =>
      simp only [ofValue?, List.zip_cons_cons, List.zip_nil_right, List.foldlM_cons, flagged]
      cases readBool? flag <;> rfl
  | [flag, packages] =>
      simp only [ofValue?, List.zip_cons_cons, List.zip_nil_right, List.foldlM_cons, flagged, listed]
      cases readBool? flag with
      | none => rfl
      | some value => cases readTexts? packages <;> rfl
  | _ :: _ :: _ :: rest =>
      simp only [List.length_cons] at short
      omega

theorem ofValue?_array_of_long {items : List Json} (long : 2 < items.length)
    : ofValue? (.array items) = none := by
  match items with
  | [] | [_] | [_, _] => simp at long
  | _ :: _ :: _ :: _ => rfl

-----------------------------------------------------------------------------------------
-- Documents
-----------------------------------------------------------------------------------------

/-- What is read of a document is the configuration that its value describes, if that is valid. -/
theorem read_of_document {text : String} {value : Json} (document : Document text.toList value)
    : read text
      = match ofValue? value with
        | none => .error (.configuration .unreadable)
        | some config => config.validate.map (fun _ => config) := by
  cases described : ofValue? value with
  | none => simp [read, document.read?_eq, described]
  | some config => simp [read, document.read?_eq, described]

/-- Documents mean their known members. An object is read as the configuration that its members
describe, whatever white space there is, in whatever order they come and however their names are
escaped, or as the reason for which that configuration is refused; what is left out is the default,
and unknown members are passed over, however deep their values are nested. So two objects are read
alike if the one has the members of the other in another order, with unknown ones added to either.
An object is unreadable if a known member comes twice, or with a value of another type. An array of
at most two items is read as the object that has them under the known names, and a longer one is
unreadable.
-/
theorem read_known_members
    : (∀ {text : String} {members : List (List Piece × Json)} {flag : Option Bool}
          {list : Option (List String)},
        Document text.toList (.object members)
        → Describes members flag list
        → read text = (said flag list).validate.map (fun _ => said flag list))
      ∧ (∀ {text text' : String} {members members' extras extras' : List (List Piece × Json)},
        Document text.toList (.object members)
        → Document text'.toList (.object members')
        → (∀ member ∈ extras ++ extras', Unknown member)
        → (members ++ extras).Perm (members' ++ extras')
        → read text = read text')
      ∧ (∀ {text : String} {members : List (List Piece × Json)},
        Document text.toList (.object members)
        → ((∃ name ∈ [failOnErrorName, packagesName],
              ∃ one other,
                [one, other].Sublist members
                ∧ Spells one.1 name.toList
                ∧ Spells other.1 name.toList)
            ∨ ∃ member ∈ members, Mistyped member)
        → read text = .error (.configuration .unreadable))
      ∧ (∀ {text text' : String} {items : List Json} {flagName listName : List Piece},
        Document text.toList (.array items)
        → items.length ≤ 2
        → Spells flagName failOnErrorName.toList
        → Spells listName packagesName.toList
        → Document text'.toList (.object ([flagName, listName].zip items))
        → read text = read text')
      ∧ ∀ {text : String} {items : List Json},
        Document text.toList (.array items)
        → 2 < items.length
        → read text = .error (.configuration .unreadable) := by
  refine ⟨?_, ?_, ?_, ?_, ?_⟩
  · intro text members flag list document describes
    rw [read_of_document document, describes.ofValue?_eq]
  · intro text text' members members' extras extras' document document' unknown perm
    have ours : ∀ member ∈ extras, Unknown member :=
      fun member among => unknown member (List.mem_append_left extras' among)
    have theirs : ∀ member ∈ extras', Unknown member :=
      fun member among => unknown member (List.mem_append_right extras among)
    have same
        : members.foldlM Fields.add? ⟨none, none⟩ = members'.foldlM Fields.add? ⟨none, none⟩ := by
      rw [← Fields.foldlM_add?_append ours, Fields.foldlM_add?_of_perm perm,
        Fields.foldlM_add?_append theirs]
    rw [read_of_document document, read_of_document document', ofValue?, same]
    rfl
  · rintro text members document (⟨name, known, one, other, twice, spells, spells'⟩ | mistyped)
    · rw [read_of_document document, ofValue?_of_twice twice known spells spells']
    · obtain ⟨member, among, mistyped⟩ := mistyped
      rw [read_of_document document, ofValue?_of_refused among mistyped.refused]
  · intro text text' items flagName listName document short spells spells' document'
    rw [read_of_document document, read_of_document document',
      ofValue?_array_eq short spells spells']
  · intro text items document long
    rw [read_of_document document, ofValue?_array_of_long long]

-----------------------------------------------------------------------------------------
-- Two spellings of one configuration
-----------------------------------------------------------------------------------------

/-- An object in which an unknown member comes first and the name of the known one is escaped. -/
def spaced : String := "\x7b \"x\":[\x7b\x7d,1e2] ,\"fail_on_\\u0065rror\" : true\x7d"

/-- The member that is not known. -/
def spacedExtra : List Piece × Json :=
  ("x".toList.map .char, .array [.object [], .number ['1', 'e', '2']])

/-- The name of the known member, as it is written. -/
def spacedFlag : List Piece :=
  "fail_on_".toList.map .char ++ .unit 0x65 :: "rror".toList.map .char

theorem spells_spacedFlag : Spells spacedFlag failOnErrorName.toList :=
  (Spells.chars "fail_on_".toList).append
    (.unit (by decide : 'e'.toNat < 0x10000) (.chars "rror".toList))

theorem unknown_spacedExtra : Unknown spacedExtra :=
  ⟨"x".toList, .chars _, by decide, by decide⟩

theorem quotes_spacedFlag : Json.Quotes "\"fail_on_\\u0065rror\"".toList spacedFlag := by
  have escape : Json.WritesPiece "\\u0065".toList (.unit 0x65) :=
    @Json.WritesPiece.unit '0' '0' '6' '5' 0 0 6 5 (by decide) (by decide) (by decide) (by decide)
  have pieces : Json.WritesPieces _ spacedFlag :=
    (@Json.writesPieces_of_plain "fail_on_".toList (by simp)).append
      (.cons escape (@Json.writesPieces_of_plain "rror".toList (by simp)))
  exact .quoted pieces

theorem document_spaced
    : Document spaced.toList (.object [spacedExtra, (spacedFlag, .bool true)]) := by
  have none : Json.Gap [] := by simp [Json.Gap]
  have one : Json.Gap [' '] := by simp [Json.Gap]
  have number : Json.Number ['1', 'e', '2'] :=
    @Json.Number.parts [] ['1'] [] ['e', '2'] (by simp)
      (@Json.Whole.positive '1' [] (by decide) (by decide) (by simp)) .absent
      (@Json.Exponent.present 'e' [] ['2'] (by simp) (by simp) ⟨by simp, by simp [Json.digits]⟩)
  have items : Json.Writes _ (.items [.object [], .number ['1', 'e', '2']]) :=
    .nextItem (.tight (.emptyObject none)) (.lastItem (.tight (.number number)))
  have extra : Json.Writes _ (.member spacedExtra.1 spacedExtra.2) :=
    .member one (.quoted (@Json.writesPieces_of_plain "x".toList (by simp))) none
      (.padded none (.array items) one)
  have flag : Json.Writes _ (.member spacedFlag (.bool true)) :=
    .member none quotes_spacedFlag one (.padded one .true none)
  exact .tight (.object (.nextMember extra (.lastMember flag)))

/-- An object with one member. -/
theorem document_single {quoted text : List Char} {name : List Piece} {value : Json}
    (quotes : Json.Quotes quoted name) (writes : Json.Writes text (.value value))
    : Document ('\x7b' :: (quoted ++ ':' :: text ++ ['\x7d'])) (.object [(name, value)]) := by
  have none : Json.Gap [] := by simp [Json.Gap]
  have member : Json.Writes _ (.member name value) := .member none quotes none (.tight writes)
  exact .tight (.object (.lastMember member))

/-- The flag is read as it is, an unknown member before it or none, also as the item of an array; and
it is refused as a null, or before too many items.
-/
theorem read_known_members_spaced
    : read spaced = .ok ⟨true, []⟩
      ∧ read spaced = read "\x7b\"fail_on_\\u0065rror\":true\x7d"
      ∧ read "\x7b\"fail_on_\\u0065rror\":null\x7d" = .error (.configuration .unreadable)
      ∧ read "[true]" = read "\x7b\"fail_on_\\u0065rror\":true\x7d"
      ∧ read "[true,null,null]" = .error (.configuration .unreadable) := by
  obtain ⟨described, permuted, refused, listed, long⟩ := read_known_members
  have only : Document "\x7b\"fail_on_\\u0065rror\":true\x7d".toList
      (.object [(spacedFlag, .bool true)]) := document_single quotes_spacedFlag .true
  have unknown : ∀ member ∈ [] ++ [spacedExtra], Unknown member := by
    simpa using unknown_spacedExtra
  refine ⟨?_, ?_, ?_, ?_, ?_⟩
  · exact described document_spaced
      (.unknown unknown_spacedExtra (.failOnError spells_spacedFlag true .nil))
  · exact permuted document_spaced only unknown (.swap ..)
  · exact refused (document_single quotes_spacedFlag .null)
      (.inr ⟨_, List.mem_singleton_self _, .failOnError spells_spacedFlag nofun⟩)
  · exact listed (.tight (.array (.lastItem (.tight .true)))) (by decide) spells_spacedFlag
      (.chars _) only
  · exact long (.tight (.array (.nextItem (.tight .true) (.nextItem (.tight .null)
      (.lastItem (.tight .null)))))) (by decide)

end Lifecycle.Config
