import Lifecycle.EventKind

/-! The failures that reach a caller, by cause, and their wording. -/

namespace Lifecycle

/-- Why a configuration is refused. -/
inductive ConfigFault where
  | unreadable
  | emptyPath
  | invalidPath (package : String)
  | reported (message : String)
  deriving DecidableEq, Repr

/-- The wording of a refusal. An invalid path is quoted as it was written. -/
def ConfigFault.message : ConfigFault → String
  | .unreadable => "the document does not describe a configuration"
  | .emptyPath => "fail_on_error_packages cannot contain empty paths"
  | .invalidPath package =>
      "Invalid module path '" ++ package ++ "' in fail_on_error_packages"
  | .reported message => message

/-- Why an operation failed: a kind of event that nobody knows, a hook that reports a failure,
an entity that does not pass validation, a refused configuration, or a lock.
-/
inductive Failure where
  | unknownEventKind (name : String)
  | callback (entity hook message : String)
  | validation (entity : String) (errors : List String)
  | configuration (fault : ConfigFault)
  | lock (message : String)
  deriving DecidableEq, Repr

namespace Failure

/-- The failure of a caller that does not recover a lock abandoned by a panic. -/
def poisoned : Failure := .lock "poisoned lock: another task failed inside"

def message : Failure → String
  | .unknownEventKind name => "Unexpected event type: " ++ name
  | .callback entity hook message =>
      "Callback '" ++ hook ++ "' failed for entity '" ++ entity ++ "': " ++ message
  | .validation entity errors =>
      "Validation error whilst flushing entity [" ++ entity ++ "]: "
        ++ String.intercalate ", " errors
  | .configuration fault => "Configuration error: " ++ fault.message
  | .lock message => "Lock error: " ++ message

end Failure

/-- Reads the name of a kind, and reports a text that names none unchanged. -/
def EventKind.parse (text : String) : Except Failure EventKind :=
  match EventKind.ofName? text with
  | some kind => .ok kind
  | none => .error (.unknownEventKind text)

end Lifecycle
