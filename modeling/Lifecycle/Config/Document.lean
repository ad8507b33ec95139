import Lifecycle.Config
import Lifecycle.Json.Reader
import Lifecycle.Json.Quoted

/-! Configurations as JSON documents. A document is an object whose known members are optional
and whose unknown members are skipped, or an array of the known members' values in order. What
is read is validated before it is handed out; what is written reads back.
-/

namespace Lifecycle.Config

/-- The member that tells whether validation errors are fatal for every class. -/
def failOnErrorName : String := "fail_on_error"

/-- The member that lists the packages below which validation errors are fatal. -/
def packagesName : String := "fail_on_error_packages"

def readBool? : Json → Option Bool
  | .bool value => some value
  | _ => none

/-- A text, in which no surrogate may stand alone. -/
def readText? : Json → Option String
  | .string pieces => (Json.decode pieces).map String.ofList
  | _ => none

def readTexts? : Json → Option (List String)
  | .array items => items.mapM readText?
  | _ => none

/-- The known members that have been met so far. -/
structure Fields where
  failOnError : Option Bool
  packages : Option (List String)
  deriving DecidableEq, Repr

/-- Takes in one member. A known member must have the right type and come at most once; of an
unknown one only the name is looked at, which must be a text.
-/
def Fields.add? (fields : Fields) (member : List Json.Piece × Json) : Option Fields := do
  let name ← Json.decode member.1
  if name = failOnErrorName.toList then
    match fields.failOnError with
    | some _ => none
    | none => (readBool? member.2).map ({ fields with failOnError := some · })
  else if name = packagesName.toList then
    match fields.packages with
    | some _ => none
    | none => (readTexts? member.2).map ({ fields with packages := some · })
  else some fields

/-- The configuration of the members that were met; missing ones are lenient. -/
def Fields.config (fields : Fields) : Config :=
  ⟨fields.failOnError.getD false, fields.packages.getD []⟩

/-- The configuration that a JSON value describes, valid or not. -/
def ofValue? : Json → Option Config
  | .object members => (members.foldlM Fields.add? ⟨none, none⟩).map Fields.config
  | .array [] => some default
  | .array [flag] => (readBool? flag).map (⟨·, []⟩)
  | .array [flag, packages] => do return ⟨← readBool? flag, ← readTexts? packages⟩
  | _ => none

def read (document : String) : Except Failure Config :=
  match (Json.read? document.toList).bind ofValue? with
  | none => .error (.configuration .unreadable)
  | some config => config.validate.map (fun _ => config)

def writeTexts (texts : List String) : List Char :=
  (texts.map (fun text => Json.quote text.toList)).intersperse [','] |>.flatten

def write (config : Config) : String :=
  String.ofList
    (['\x7b'] ++ Json.quote failOnErrorName.toList ++ [':']
      ++ (if config.failOnError then "true" else "false").toList
      ++ [','] ++ Json.quote packagesName.toList ++ [':', '[']
      ++ writeTexts config.packages ++ [']', '\x7d'])

end Lifecycle.Config
