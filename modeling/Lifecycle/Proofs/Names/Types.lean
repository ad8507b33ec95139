import Lifecycle.EntityClass
import Mathlib.Data.List.Basic

/-! Names of types as trees, and what the simple name of a class keeps of them. A type is written with
the modules around it before its own name and its arguments in angle brackets behind it, each argument
a type again. The simple name is cut off behind the last separator of all: behind the modules of the
type itself if no argument is written with modules, and else inside of an argument.
-/

namespace Lifecycle

/-- A name without colons and angle brackets, of a module or of a type without its arguments. -/
structure Identifier where
  text : List Char
  plain : ∀ c ∈ text, c ≠ ':' ∧ c ≠ '<' ∧ c ≠ '>'

/-- A type as it is named: by the modules around it, from the outermost on, and its own identifier,
and if it is generic by its arguments.
-/
inductive NamedType where
  | plain (modules : List Identifier) (own : Identifier)
  | generic (modules : List Identifier) (own : Identifier) (arguments : List NamedType)

namespace NamedType

open Text.Path

-----------------------------------------------------------------------------------------
-- How types are written
-----------------------------------------------------------------------------------------

/-- The path of modules that is written before a type, with a separator after each of them. -/
def pathText (modules : List Identifier) : List Char :=
  modules.flatMap (fun identifier => identifier.text ++ separator)

/-- A generic type without its modules, given how its arguments are written. -/
def applied (own : Identifier) (arguments : List (List Char)) : List Char :=
  own.text ++ ('<' :: [',', ' '].intercalate arguments ++ ['>'])

mutual
/-- The name of a type, as it is written. -/
def text : NamedType → List Char
  | .plain modules own => pathText modules ++ own.text
  | .generic modules own arguments => pathText modules ++ applied own (texts arguments)
def texts : List NamedType → List (List Char)
  | [] => []
  | first :: rest => first.text :: texts rest
end

def modules : NamedType → List Identifier
  | .plain modules _ => modules
  | .generic modules _ _ => modules

def own : NamedType → Identifier
  | .plain _ own => own
  | .generic _ own _ => own

def arguments : NamedType → List NamedType
  | .plain _ _ => []
  | .generic _ _ arguments => arguments

/-- The name of a type without the modules before it. -/
def localText : NamedType → List Char
  | .plain _ own => own.text
  | .generic _ own arguments => applied own (arguments.map text)

/-- The type is written without modules, and so are all types in its arguments. -/
inductive Unqualified : NamedType → Prop where
  | plain (own : Identifier) : Unqualified (.plain [] own)
  | generic (own : Identifier) {arguments : List NamedType}
    (all : ∀ argument ∈ arguments, Unqualified argument)
    : Unqualified (.generic [] own arguments)

/-- Induction over a type and the types in its arguments. -/
theorem induction_arguments {motive : NamedType → Prop}
    (plain : ∀ modules own, motive (.plain modules own))
    (generic : ∀ modules own arguments,
      (∀ argument ∈ arguments, motive argument) → motive (.generic modules own arguments))
    : ∀ type, motive type
  | .plain modules own => plain modules own
  | .generic modules own arguments =>
      generic modules own arguments (fun argument _ => induction_arguments plain generic argument)

@[simp]
theorem texts_eq_map (types : List NamedType) : texts types = types.map text := by
  induction types with
  | nil => rfl
  | cons first rest ih => simp [texts, ih]

theorem text_eq (type : NamedType) : type.text = pathText type.modules ++ type.localText := by
  cases type with
  | plain modules own => rfl
  | generic modules own arguments => simp [text, NamedType.modules, localText]

theorem own_prefix_localText (type : NamedType) : type.own.text <+: type.localText := by
  cases type with
  | plain modules own => exact List.prefix_refl _
  | generic modules own arguments => exact List.prefix_append _ _

/-- A path of modules ends with a separator. -/
theorem exists_pathText_eq {modules : List Identifier} (filled : modules ≠ [])
    : ∃ before, pathText modules = before ++ separator := by
  refine ⟨pathText modules.dropLast ++ (modules.getLast filled).text, ?_⟩
  conv_lhs => rw [← List.dropLast_append_getLast filled]
  simp [pathText]

/-- What a comma and each of some texts have, and two texts together if each of them has it, the texts
with commas between them have too.
-/
theorem intercalate_of_forall (property : List Char → Prop) (empty : property [])
    (comma : property [',', ' '])
    (append : ∀ {left right}, property left → property right → property (left ++ right))
    {texts : List (List Char)} (each : ∀ text ∈ texts, property text)
    : property ([',', ' '].intercalate texts) := by
  induction texts with
  | nil => exact empty
  | cons first rest ih =>
      have own : property first := each first List.mem_cons_self
      have others := ih (fun text member => each text (List.mem_cons_of_mem first member))
      cases rest with
      | nil => simpa using own
      | cons next rest =>
          rw [List.intercalate_cons_cons]
          exact append (append own comma) others

theorem colon_not_mem_intercalate {texts : List (List Char)} (each : ∀ text ∈ texts, ':' ∉ text)
    : ':' ∉ [',', ' '].intercalate texts :=
  intercalate_of_forall (':' ∉ ·) (by simp) (by simp) (by simp_all) each

/-- Nothing but separators brings a colon into the name of a type. -/
theorem Unqualified.colon_not_mem {type : NamedType} (unqualified : type.Unqualified)
    : ':' ∉ type.text := by
  have plain (own : Identifier) : ':' ∉ own.text := fun member => (own.plain _ member).1 rfl
  induction unqualified with
  | plain own => simpa [text, pathText] using plain own
  | @generic own arguments _ ih =>
      have inside : ':' ∉ [',', ' '].intercalate (arguments.map text) :=
        colon_not_mem_intercalate (by simpa using ih)
      simp [text, pathText, applied, plain own, inside]

/-- No colon is in what stands behind the modules of a type, unless there are modules inside. -/
theorem colon_not_mem_localText {type : NamedType}
    (clean : ∀ argument ∈ type.arguments, argument.Unqualified)
    : ':' ∉ type.localText := by
  cases type with
  | plain modules own =>
      simpa [text, pathText, localText] using (Unqualified.plain own).colon_not_mem
  | generic modules own arguments =>
      simpa [text, pathText, localText, NamedType.arguments]
        using (Unqualified.generic own clean).colon_not_mem

-----------------------------------------------------------------------------------------
-- Angle brackets
-----------------------------------------------------------------------------------------

/-- Every angle bracket that is opened in the text is closed in it, and the other way round. -/
inductive Balanced : List Char → Prop where
  | nil : Balanced []
  | other {c : Char} {rest : List Char} (outside : c ≠ '<' ∧ c ≠ '>') (balanced : Balanced rest)
    : Balanced (c :: rest)
  | nested {inside rest : List Char} (inner : Balanced inside) (balanced : Balanced rest)
    : Balanced ('<' :: inside ++ '>' :: rest)

theorem Balanced.append {left right : List Char} (balanced : Balanced left)
    (balanced' : Balanced right)
    : Balanced (left ++ right) := by
  induction balanced with
  | nil => exact balanced'
  | other outside _ ih => exact .other outside ih
  | nested inner _ _ ih => simpa using Balanced.nested inner ih

theorem balanced_of_plain {text : List Char} (plain : ∀ c ∈ text, c ≠ '<' ∧ c ≠ '>')
    : Balanced text := by
  induction text with
  | nil => exact .nil
  | cons c rest ih =>
      exact .other (plain c List.mem_cons_self)
        (ih (fun d member => plain d (List.mem_cons_of_mem c member)))

/-- In a balanced text there are as many brackets of the one kind as of the other. -/
theorem Balanced.count_eq {text : List Char} (balanced : Balanced text)
    : text.count '<' = text.count '>' := by
  induction balanced with
  | nil => rfl
  | other outside _ ih => simpa [List.count_cons, outside] using ih
  | nested _ _ ih ih' => grind

theorem balanced_identifier (identifier : Identifier) : Balanced identifier.text :=
  balanced_of_plain (fun c member => (identifier.plain c member).2)

theorem balanced_pathText (modules : List Identifier) : Balanced (pathText modules) := by
  induction modules with
  | nil => exact .nil
  | cons first rest ih =>
      have colons : Balanced separator := balanced_of_plain (by simp [separator])
      exact ((balanced_identifier first).append colons).append ih

theorem balanced_comma : Balanced [',', ' '] := balanced_of_plain (by simp)

theorem balanced_intercalate {texts : List (List Char)} (each : ∀ text ∈ texts, Balanced text)
    : Balanced ([',', ' '].intercalate texts) :=
  intercalate_of_forall Balanced .nil balanced_comma Balanced.append each

theorem balanced_applied (own : Identifier) {arguments : List (List Char)}
    (each : ∀ argument ∈ arguments, Balanced argument)
    : Balanced (applied own arguments) :=
  (balanced_identifier own).append (.nested (balanced_intercalate each) .nil)

theorem balanced_text (type : NamedType) : Balanced type.text := by
  induction type using induction_arguments with
  | plain modules own => exact (balanced_pathText modules).append (balanced_identifier own)
  | generic modules own arguments ih =>
      refine (balanced_pathText modules).append (balanced_applied own ?_)
      simpa using ih

theorem balanced_localText (type : NamedType) : Balanced type.localText := by
  cases type with
  | plain modules own => exact balanced_identifier own
  | generic modules own arguments =>
      refine balanced_applied own ?_
      simpa using fun argument _ => balanced_text argument

-----------------------------------------------------------------------------------------
-- What stands behind the last separator
-----------------------------------------------------------------------------------------

/-- There is a separator in the text, and behind the last one stands the rest. -/
def EndsWith (text rest : List Char) : Prop :=
  (∃ before, text = before ++ separator ++ rest) ∧ ':' ∉ rest

theorem beforeSeparator_of_not_mem {text : List Char} (clean : ':' ∉ text)
    : beforeSeparator text = text := by
  induction text using beforeSeparator.induct with
  | case1 => simp at clean
  | case2 c rest _ ih => simp_all [beforeSeparator]
  | case3 => rfl

theorem beforeSeparator_append {before : List Char} (clean : ':' ∉ before) (after : List Char)
    : beforeSeparator (before ++ separator ++ after) = before := by
  induction before with
  | nil => rfl
  | cons c before ih =>
      obtain ⟨other, clean⟩ : c ≠ ':' ∧ ':' ∉ before := by simpa [eq_comm] using clean
      have further
          : beforeSeparator (c :: (before ++ separator ++ after))
            = c :: beforeSeparator (before ++ separator ++ after) :=
        beforeSeparator.eq_2 _ _ (fun _ colon _ => other colon)
      rw [List.cons_append, List.cons_append, further, ih clean]

theorem lastSegment_of_not_mem {text : List Char} (clean : ':' ∉ text)
    : lastSegment text = text := by
  rw [lastSegment, beforeSeparator_of_not_mem (by simpa using clean), List.reverse_reverse]

theorem EndsWith.lastSegment_eq {text rest : List Char} (ends : EndsWith text rest)
    : lastSegment text = rest := by
  obtain ⟨⟨before, rfl⟩, clean⟩ := ends
  have turned : (before ++ separator ++ rest).reverse
      = rest.reverse ++ separator ++ before.reverse := by
    simp [separator]
  rw [lastSegment, turned, beforeSeparator_append (by simpa using clean), List.reverse_reverse]

theorem EndsWith.prepend {text rest : List Char} (ends : EndsWith text rest) (before : List Char)
    : EndsWith (before ++ text) rest := by
  obtain ⟨⟨front, rfl⟩, clean⟩ := ends
  exact ⟨⟨before ++ front, by simp⟩, clean⟩

theorem EndsWith.append {text rest : List Char} (ends : EndsWith text rest) (after : List Char)
    (clean : ':' ∉ after)
    : EndsWith (text ++ after) (rest ++ after) := by
  obtain ⟨⟨front, rfl⟩, clean'⟩ := ends
  exact ⟨⟨front, by simp⟩, by simp [clean, clean']⟩

/-- The text has a last separator, and the rest behind it opens no more brackets than it closes. -/
def IsCut (text : List Char) : Prop :=
  ∃ rest, EndsWith text rest ∧ rest.count '<' ≤ rest.count '>'

theorem IsCut.prepend {text : List Char} (cut : IsCut text) (before : List Char)
    : IsCut (before ++ text) := by
  obtain ⟨rest, ends, counts⟩ := cut
  exact ⟨rest, ends.prepend before, counts⟩

theorem IsCut.append {text : List Char} (cut : IsCut text) {after : List Char}
    (clean : ':' ∉ after) (balanced : Balanced after)
    : IsCut (text ++ after) := by
  obtain ⟨rest, ends, counts⟩ := cut
  have equal := balanced.count_eq
  refine ⟨rest ++ after, ends.append after clean, ?_⟩
  simp only [List.count_append]
  omega

/-- If arguments that are written with modules are cut, so is a list in which there are some: it is cut
in the last of them.
-/
theorem isCut_intercalate {arguments : List NamedType}
    (each : ∀ argument ∈ arguments, ¬ argument.Unqualified → IsCut argument.text)
    (qualified : ¬ ∀ argument ∈ arguments, argument.Unqualified)
    : IsCut ([',', ' '].intercalate (arguments.map text)) := by
  induction arguments with
  | nil => simp at qualified
  | cons first others ih =>
      cases others with
      | nil => simpa using each first List.mem_cons_self (by simpa using qualified)
      | cons next others =>
          rw [List.map_cons, List.map_cons, List.intercalate_cons_cons, ← List.map_cons]
          by_cases clean : ∀ argument ∈ next :: others, argument.Unqualified
          · -- nothing behind the first argument holds a separator, so that is where the cut is
            have own : IsCut first.text := each first List.mem_cons_self (by simp_all)
            have colons : ':' ∉ [',', ' '].intercalate ((next :: others).map text) :=
              colon_not_mem_intercalate
                (List.forall_mem_map.mpr (fun argument member => (clean argument member).colon_not_mem))
            have balanced : Balanced ([',', ' '].intercalate ((next :: others).map text)) :=
              balanced_intercalate (List.forall_mem_map.mpr (fun argument _ => argument.balanced_text))
            rw [List.append_assoc]
            exact own.append (by simpa using colons) (balanced_comma.append balanced)
          · have later := ih (fun argument member => each argument (List.mem_cons_of_mem first member))
              clean
            exact later.prepend _

/-- Behind its own modules, a type is cut whole if there are no modules inside. -/
theorem endsWith_localText {type : NamedType} (filled : type.modules ≠ [])
    (clean : ∀ argument ∈ type.arguments, argument.Unqualified)
    : EndsWith type.text type.localText := by
  obtain ⟨before, path⟩ := exists_pathText_eq filled
  exact ⟨⟨before, by rw [text_eq, path]⟩, colon_not_mem_localText clean⟩

/-- A type that is cut inside of its arguments is left with a bracket that closes what was opened
before.
-/
theorem exists_endsWith_of_isCut {modules : List Identifier} {own : Identifier}
    {arguments : List NamedType} (cut : IsCut ([',', ' '].intercalate (arguments.map text)))
    : ∃ rest, EndsWith (text (.generic modules own arguments)) rest
        ∧ rest.count '<' < rest.count '>' := by
  obtain ⟨rest, ends, counts⟩ := cut
  -- the cut takes away the bracket that opens the arguments and leaves the one that closes them
  have opened := (ends.prepend (pathText modules ++ own.text ++ ['<'])).append ['>'] (by simp)
  refine ⟨rest ++ ['>'], by simpa [text, applied] using opened, ?_⟩
  grind

/-- A type that is written with modules somewhere is cut: inside of its arguments if there are some,
and behind its own if not. The brackets that are too many add up from the inside to the outside.
-/
theorem isCut_text {type : NamedType} (qualified : ¬ type.Unqualified) : IsCut type.text := by
  induction type using induction_arguments with
  | plain modules own =>
      have filled : modules ≠ [] := by
        rintro rfl
        exact qualified (.plain own)
      exact ⟨_, endsWith_localText filled (by simp [arguments]),
        Nat.le_of_eq (balanced_localText _).count_eq⟩
  | generic modules own arguments ih =>
      by_cases clean : ∀ argument ∈ arguments, argument.Unqualified
      · have filled : modules ≠ [] := by
          rintro rfl
          exact qualified (.generic own clean)
        exact ⟨_, endsWith_localText filled clean, Nat.le_of_eq (balanced_localText _).count_eq⟩
      · obtain ⟨rest, ends, counts⟩ := exists_endsWith_of_isCut (isCut_intercalate ih clean)
        exact ⟨rest, ends, Nat.le_of_lt counts⟩

theorem exists_endsWith_of_qualified {type : NamedType}
    (qualified : ¬ ∀ argument ∈ type.arguments, argument.Unqualified)
    : ∃ rest, EndsWith type.text rest ∧ rest.count '<' < rest.count '>' := by
  cases type with
  | plain modules own => simp [arguments] at qualified
  | generic modules own arguments =>
      exact exists_endsWith_of_isCut (isCut_intercalate (fun _ _ => isCut_text) qualified)

theorem lastSegment_text_of_unqualified {type : NamedType}
    (clean : ∀ argument ∈ type.arguments, argument.Unqualified)
    : lastSegment type.text = type.localText := by
  by_cases filled : type.modules = []
  · have whole : type.text = type.localText := by simp [text_eq, filled, pathText]
    rw [whole, lastSegment_of_not_mem (colon_not_mem_localText clean)]
  · exact (endsWith_localText filled clean).lastSegment_eq

end NamedType

open NamedType

/-- The simple name of a class is its name without the modules before it, from the type's own identifier
to the end of its arguments, if and only if no argument is written with modules, and only then are its
angle brackets balanced. If one is, the name is cut inside of an argument: of what stands behind the
last separator a bracket is closed that was opened before.
-/
theorem EntityClass.simpleName_eq_localText_iff (type : NamedType) (cls : EntityClass)
    (named : cls.name.toList = type.text)
    : type.text = pathText type.modules ++ type.localText
      ∧ type.own.text <+: type.localText
      ∧ (cls.simpleName.toList = type.localText
          ↔ ∀ argument ∈ type.arguments, argument.Unqualified)
      ∧ (Balanced cls.simpleName.toList ↔ ∀ argument ∈ type.arguments, argument.Unqualified)
      ∧ (¬ (∀ argument ∈ type.arguments, argument.Unqualified)
          → EndsWith type.text cls.simpleName.toList
            ∧ cls.simpleName.toList.count '<' < cls.simpleName.toList.count '>') := by
  have simple : cls.simpleName.toList = Text.Path.lastSegment type.text := by
    rw [EntityClass.simpleName, String.toList_ofList, named]
  rw [simple]
  have kept (clean : ∀ argument ∈ type.arguments, argument.Unqualified)
      : Text.Path.lastSegment type.text = type.localText := lastSegment_text_of_unqualified clean
  have cut (qualified : ¬ ∀ argument ∈ type.arguments, argument.Unqualified)
      : EndsWith type.text (Text.Path.lastSegment type.text)
        ∧ (Text.Path.lastSegment type.text).count '<' < (Text.Path.lastSegment type.text).count '>' := by
    obtain ⟨rest, ends, counts⟩ := exists_endsWith_of_qualified qualified
    rw [ends.lastSegment_eq]
    exact ⟨ends, counts⟩
  have clean_of_balanced (balanced : Balanced (Text.Path.lastSegment type.text))
      : ∀ argument ∈ type.arguments, argument.Unqualified := by
    by_contra qualified
    exact Nat.ne_of_lt (cut qualified).2 balanced.count_eq
  refine ⟨text_eq type, own_prefix_localText type, ⟨?_, kept⟩, ⟨clean_of_balanced, ?_⟩, cut⟩
  · intro same
    exact clean_of_balanced (same ▸ balanced_localText type)
  · intro clean
    exact kept clean ▸ balanced_localText type

namespace NamedType

def app : Identifier := ⟨"app".toList, by simp⟩

def shop : Identifier := ⟨"shop".toList, by simp⟩

def wrap : Identifier := ⟨"wrap".toList, by simp⟩

def boxed : Identifier := ⟨"Boxed".toList, by simp⟩

def book : Identifier := ⟨"Book".toList, by simp⟩

end NamedType

/-- A class of boxes is called by the rest of what it boxes, if that is written with modules: a name
with a bracket too many. It is called by its own name and its argument, if that is written without.
-/
theorem EntityClass.simpleName_eq_localText_iff_boxes
    : let qualified : NamedType := .generic [app, wrap] boxed [.plain [app, shop] book]
      let bare : NamedType := .generic [app, wrap] boxed [.plain [] book]
      let boxes : EntityClass := ⟨⟨3, "app::wrap::Boxed<app::shop::Book>"⟩, false⟩
      let boxes' : EntityClass := ⟨⟨4, "app::wrap::Boxed<Book>"⟩, false⟩
      (boxes.name.toList = qualified.text
        ∧ qualified.localText = "Boxed<app::shop::Book>".toList
        ∧ boxes.simpleName.toList ≠ qualified.localText
        ∧ ¬ Balanced boxes.simpleName.toList
        ∧ boxes.simpleName = "Book>")
      ∧ boxes'.name.toList = bare.text
      ∧ boxes'.simpleName.toList = "Boxed<Book>".toList
      ∧ Balanced boxes'.simpleName.toList := by
  intro qualified bare boxes boxes'
  have named : boxes.name.toList = qualified.text := by decide
  have named' : boxes'.name.toList = bare.text := by decide
  have inside : ¬ ∀ argument ∈ qualified.arguments, argument.Unqualified := by
    intro clean
    cases clean (.plain [app, shop] book) (List.mem_singleton_self _)
  have clean : ∀ argument ∈ bare.arguments, argument.Unqualified := by
    intro argument member
    obtain rfl := List.mem_singleton.mp member
    exact .plain book
  obtain ⟨-, -, whole, balanced, -⟩ := boxes.simpleName_eq_localText_iff qualified named
  obtain ⟨-, -, whole', balanced', -⟩ := boxes'.simpleName_eq_localText_iff bare named'
  refine ⟨⟨named, by decide, mt whole.mp inside, mt balanced.mp inside, by decide⟩, named', ?_,
    balanced'.mpr clean⟩
  exact whole'.mpr clean

end Lifecycle
