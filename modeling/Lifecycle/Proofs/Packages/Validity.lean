import Lifecycle.Interceptor
import Lifecycle.Listener
import Lifecycle.Proofs.Documents.RoundTrip
import Lifecycle.Proofs.Packages.Membership

/-! Which packages a configuration may list. Validation and membership trim a package each on its own,
and they agree: no class lies below a package that is refused, if there is no white space in the
class's name, so the refused packages of a list could as well not be in it.
-/

namespace Lifecycle

namespace Text.Path

variable {text : List Char}

/-- The text is made of separators. The empty text is made of none. -/
def IsSeparators (text : List Char) : Prop :=
  ∃ count, text = (List.replicate count separator).flatten

/-- Trimming leaves nothing of a text if and only if the text is made of separators. -/
theorem trimSeparators_eq_nil_iff : trimSeparators text = [] ↔ IsSeparators text := by
  constructor
  · intro empty
    obtain ⟨count, whole⟩ := exists_eq_trimSeparators_append text
    exact ⟨count, by simpa [empty] using whole⟩
  · rintro ⟨count, rfl⟩
    simpa [trimSeparators, dropSeparators] using trimSeparators_append_replicate [] count

/-- Trimming takes nothing but colons away, and a colon is no white space. -/
theorem any_isBlank_trimSeparators (text : List Char)
    : (trimSeparators text).any isBlank = text.any isBlank := by
  obtain ⟨count, whole⟩ := exists_eq_trimSeparators_append text
  have colon : isBlank ':' = false := by decide
  have colons : (List.replicate count separator).flatten.any isBlank = false := by
    simp [separator, colon]
  conv_rhs => rw [whole, List.any_append, colons, Bool.or_false]

end Text.Path

namespace Config

open Text (isBlank)
open Text.Path

-----------------------------------------------------------------------------------------
-- Packages that may be listed
-----------------------------------------------------------------------------------------

/-- Something is in the package beside the separators at its end, and no white space. -/
def IsAdmissible (package : String) : Prop :=
  ¬ IsSeparators package.toList ∧ ∀ c ∈ package.toList, isBlank c = false

/-- What speaks against a package: that nothing is left of it, or else that there is white space. -/
inductive Objection (package : String) : ConfigFault → Prop where
  | empty (bare : IsSeparators package.toList) : Objection package .emptyPath
  | blank (filled : ¬ IsSeparators package.toList) {c : Char} (member : c ∈ package.toList)
    (blank : isBlank c = true)
    : Objection package (.invalidPath package)

theorem isAdmissible_or_objection (package : String)
    : IsAdmissible package ∨ ∃ fault, Objection package fault := by
  by_cases bare : IsSeparators package.toList
  · exact .inr ⟨_, .empty bare⟩
  · by_cases clean : ∀ c ∈ package.toList, isBlank c = false
    · exact .inl ⟨bare, clean⟩
    · push Not at clean
      obtain ⟨c, member, blank⟩ := clean
      exact .inr ⟨_, .blank bare member (by simpa using blank)⟩

theorem IsAdmissible.packageFault?_eq {package : String} (admissible : IsAdmissible package)
    : packageFault? package = none := by
  have filled := mt trimSeparators_eq_nil_iff.mp admissible.1
  simpa [packageFault?, any_isBlank_trimSeparators, filled] using admissible.2

theorem Objection.packageFault?_eq {package : String} {fault : ConfigFault}
    (objection : Objection package fault)
    : packageFault? package = some fault := by
  cases objection with
  | empty bare => simp [packageFault?, trimSeparators_eq_nil_iff.mpr bare]
  | blank filled member blank =>
      have filled := mt trimSeparators_eq_nil_iff.mp filled
      have found : package.toList.any isBlank = true := List.any_eq_true.mpr ⟨_, member, blank⟩
      simp [packageFault?, any_isBlank_trimSeparators, filled, found]

theorem packageFault?_eq_none_iff (package : String)
    : packageFault? package = none ↔ IsAdmissible package := by
  refine ⟨fun passed => ?_, IsAdmissible.packageFault?_eq⟩
  rcases isAdmissible_or_objection package with admissible | ⟨fault, objection⟩
  · exact admissible
  · rw [objection.packageFault?_eq] at passed
    cases passed

instance : DecidablePred IsAdmissible :=
  fun package => decidable_of_iff _ (packageFault?_eq_none_iff package)

theorem packageFault?_eq_some_iff (package : String) (fault : ConfigFault)
    : packageFault? package = some fault ↔ Objection package fault := by
  refine ⟨fun refused => ?_, Objection.packageFault?_eq⟩
  rcases isAdmissible_or_objection package with admissible | ⟨fault', objection⟩
  · rw [admissible.packageFault?_eq] at refused
    cases refused
  · rw [objection.packageFault?_eq] at refused
    cases refused
    exact objection

-----------------------------------------------------------------------------------------
-- Configurations that are let through
-----------------------------------------------------------------------------------------

theorem validate_eq_ok_iff (config : Config)
    : config.validate = .ok () ↔ ∀ package ∈ config.packages, IsAdmissible package := by
  simp only [← packageFault?_eq_none_iff, ← List.findSome?_eq_none_iff, validate]
  cases config.packages.findSome? packageFault? <;> simp

/-- The first package of the list that is objected to is the one that is reported. -/
theorem validate_eq_error_iff (config : Config) (failure : Failure)
    : config.validate = .error failure
      ↔ ∃ before package after fault,
          config.packages = before ++ package :: after
          ∧ (∀ earlier ∈ before, IsAdmissible earlier)
          ∧ Objection package fault
          ∧ failure = .configuration fault := by
  have reported
      : config.validate = .error failure
        ↔ ∃ fault,
            config.packages.findSome? packageFault? = some fault
            ∧ failure = .configuration fault := by
    rw [validate]
    cases config.packages.findSome? packageFault? <;> simp [eq_comm]
  rw [reported]
  simp only [List.findSome?_eq_some_iff, packageFault?_eq_some_iff, packageFault?_eq_none_iff]
  constructor
  · rintro ⟨fault, ⟨before, package, after, split, objection, earlier⟩, rfl⟩
    exact ⟨before, package, after, fault, split, earlier, objection, rfl⟩
  · rintro ⟨before, package, after, fault, split, earlier, objection, rfl⟩
    exact ⟨fault, ⟨before, package, after, split, objection, earlier⟩, rfl⟩

/-- Whatever is read of a document is valid, and every valid configuration has a document. -/
theorem exists_read_eq_ok_iff (config : Config)
    : (∃ document, read document = .ok config) ↔ config.validate = .ok () := by
  constructor
  · rintro ⟨document, got⟩
    rw [read] at got
    split at got
    next => cases got
    next described _ =>
      cases valid : described.validate with
      | error failure => simp [valid, Except.map] at got
      | ok =>
          obtain rfl : described = config := by simpa [valid, Except.map] using got
          exact valid
  · intro valid
    exact ⟨write config, by simp [read, read?_write, valid, Except.map]⟩

-----------------------------------------------------------------------------------------
-- Classes below the packages that are refused
-----------------------------------------------------------------------------------------

variable {cls : EntityClass}

/-- A class lies below admissible packages only: what it continues is part of its name. -/
theorem isAdmissible_of_isBelow (clean : ∀ c ∈ cls.name.toList, isBlank c = false) {package : String}
    (below : cls.isBelow package = true)
    : IsAdmissible package := by
  obtain ⟨filled, continues⟩ := isBelow_iff.mp below
  have within : (trimSeparators package.toList).any isBlank = false := by
    refine List.any_eq_false.mpr (fun c member => ?_)
    simp [clean c (continues.subset (List.mem_append_left separator member))]
  rw [any_isBlank_trimSeparators] at within
  exact ⟨mt trimSeparators_eq_nil_iff.mpr filled, by simpa using within⟩

/-- The packages that are not admissible make no difference to which classes a list covers. -/
theorem covers_filter_isAdmissible (clean : ∀ c ∈ cls.name.toList, isBlank c = false)
    (config : Config)
    : covers { config with packages := config.packages.filter (IsAdmissible ·) } cls
      = config.covers cls := by
  have same (package : String)
      : (decide (IsAdmissible package) && cls.isBelow package) = cls.isBelow package := by
    cases below : cls.isBelow package with
    | false => exact Bool.and_false _
    | true => simp [isAdmissible_of_isBelow clean below]
  simp only [covers, List.any_filter, same]

/-- A configuration is valid if and only if each of its packages has something in it beside the
separators at its end, and no white space; else the first package is reported of which that is not
so, as an empty one or as it was written. Neither an interceptor nor a document is had with any other
configuration. Nothing useful is refused: no class without white space in its name lies below a
package that is not admissible, so without those packages the list is valid and every listener for
such a class is what it would be with them.
-/
theorem validate_agrees_with_isBelow
    : (∀ config : Config,
        config.validate = .ok () ↔ ∀ package ∈ config.packages, IsAdmissible package)
      ∧ (∀ (config : Config) failure,
          config.validate = .error failure
          ↔ ∃ before package after fault,
              config.packages = before ++ package :: after
              ∧ (∀ earlier ∈ before, IsAdmissible earlier)
              ∧ Objection package fault
              ∧ failure = .configuration fault)
      ∧ (∀ package,
          (ConfigFault.invalidPath package).message
          = "Invalid module path '" ++ package ++ "' in fail_on_error_packages")
      ∧ (∀ {ε μ : Type} (interceptor : Interceptor ε μ) config,
          interceptor.withConfig config
          = config.validate.map (fun _ => { interceptor with config }))
      ∧ (∀ document config,
          (Json.read? document.toList).bind ofValue? = some config
          → read document = config.validate.map (fun _ => config))
      ∧ (∀ config, (∃ document, read document = .ok config) ↔ config.validate = .ok ())
      ∧ (∀ (cls : EntityClass) package,
          (∀ c ∈ cls.name.toList, isBlank c = false)
          → ¬ IsAdmissible package
          → cls.isBelow package = false)
      ∧ ∀ (cls : EntityClass) (config : Config),
          (∀ c ∈ cls.name.toList, isBlank c = false)
          → let kept := { config with packages := config.packages.filter (IsAdmissible ·) }
            kept.validate = .ok ()
            ∧ ∀ serial clock,
                Listener.make serial cls kept clock = Listener.make serial cls config clock := by
  refine ⟨validate_eq_ok_iff, validate_eq_error_iff, fun _ => rfl, ?_, ?_, exists_read_eq_ok_iff,
    ?_, ?_⟩
  · intro ε μ interceptor config
    rw [Interceptor.withConfig]
    cases config.validate <;> rfl
  · intro document config described
    rw [read, described]
  · intro cls package clean refused
    exact Bool.eq_false_iff.mpr (mt (isAdmissible_of_isBelow clean) refused)
  · intro cls config clean kept
    constructor
    · rw [validate_eq_ok_iff]
      intro package member
      simpa using (List.mem_filter.mp member).2
    · intro serial clock
      rw [Listener.make, Listener.make, covers_filter_isAdmissible clean]

/-- A list is refused for the second of its packages, in which there is white space, though there is
nothing but separators in the third; with the first alone it is let through, and makes the same
listener for a class of boxes.
-/
theorem validate_agrees_with_isBelow_boxes
    : let boxes : EntityClass := ⟨⟨3, "app::läden::Box<app::Book>"⟩, false⟩
      let config : Config := ⟨false, ["app::läden::::", "app::läden\u3000::", "::::"]⟩
      let kept : Config := ⟨false, ["app::läden::::"]⟩
      config.validate = .error (.configuration (.invalidPath "app::läden\u3000::"))
      ∧ (∀ c ∈ boxes.name.toList, isBlank c = false)
      ∧ (∀ document, read document ≠ .ok config)
      ∧ boxes.isBelow "app::läden\u3000::" = false
      ∧ boxes.isBelow "::::" = false
      ∧ kept.validate = .ok ()
      ∧ ∀ serial clock,
          Listener.make serial boxes kept clock = Listener.make serial boxes config clock := by
  intro boxes config kept
  obtain ⟨-, refused, -, -, -, readable, apart, spared⟩ := validate_agrees_with_isBelow
  have clean : ∀ c ∈ boxes.name.toList, isBlank c = false := by
    have without : boxes.name.toList.any isBlank = false := by decide +kernel
    simpa using without
  have first : IsAdmissible "app::läden::::" := by decide +kernel
  have second : ¬ IsAdmissible "app::läden\u3000::" := by decide +kernel
  have third : ¬ IsAdmissible "::::" := by decide +kernel
  have left : { config with packages := config.packages.filter (IsAdmissible ·) } = kept := by
    simp [config, kept, first, second, third]
  have objection
      : Objection "app::läden\u3000::" (.invalidPath "app::läden\u3000::") :=
    (packageFault?_eq_some_iff _ _).mp (by decide +kernel)
  have reported
      : config.validate = .error (.configuration (.invalidPath "app::läden\u3000::")) :=
    (refused _ _).mpr
      ⟨["app::läden::::"], _, ["::::"], _, rfl, by simpa using first, objection, rfl⟩
  obtain ⟨passes, same⟩ := left ▸ spared boxes config clean
  refine ⟨reported, clean, ?_, apart _ _ clean second, apart _ _ clean third, passes, same⟩
  intro document got
  have passed := (readable config).mp ⟨document, got⟩
  rw [reported] at passed
  cases passed

end Config

end Lifecycle
