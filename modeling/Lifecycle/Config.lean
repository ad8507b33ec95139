import Lifecycle.EntityClass
import Lifecycle.Failure
import Lifecycle.Text.Blank

/-! How strictly an interceptor treats entities that do not pass validation. A rejected write is
skipped in silence unless the configuration covers the entity's class; then it is an error.
-/

namespace Lifecycle

/-- Whether validation errors are fatal, for all classes or below certain packages. -/
structure Config where
  failOnError : Bool
  packages : List String
  deriving DecidableEq, Repr

namespace Config

/-- The lenient configuration. -/
instance : Inhabited Config := ⟨⟨false, []⟩⟩

def withFailOnError (config : Config) (enabled : Bool) : Config :=
  { config with failOnError := enabled }

def withPackage (config : Config) (package : String) : Config :=
  { config with packages := config.packages ++ [package] }

def covers (config : Config) (cls : EntityClass) : Bool :=
  config.failOnError || config.packages.any cls.isBelow

/-- A package is refused if nothing is left of it without the separators at its end, or if
there is white space in what is left. Neither could be the path of a module.
-/
def packageFault? (package : String) : Option ConfigFault :=
  let stem := Text.Path.trimSeparators package.toList
  if stem.isEmpty then some .emptyPath
  else if stem.any Text.isBlank then some (.invalidPath package)
  else none

/-- Reports the first package that is refused. -/
def validate (config : Config) : Except Failure Unit :=
  match config.packages.findSome? packageFault? with
  | some fault => .error (.configuration fault)
  | none => .ok ()

end Config

end Lifecycle
