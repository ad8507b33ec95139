import Lifecycle.Text.Casing

/-! The ten kinds of lifecycle event and their names. Reading a name back ignores the case of
ASCII letters and nothing else.
-/

namespace Lifecycle

/-- A database write that the persistence engine announces before and after. -/
inductive Write where
  | insert
  | update
  | delete
  deriving DecidableEq, Repr

/-- The kinds of event that the persistence engine announces. -/
inductive EventKind where
  | pre (write : Write)
  | post (write : Write)
  | preLoad
  | postLoad
  | saveOrUpdate
  | validation
  deriving DecidableEq, Repr

namespace EventKind

/-- Every kind, in the order in which the kinds are listed and numbered. -/
def all : List EventKind :=
  [.pre .insert, .post .insert, .pre .update, .post .update, .pre .delete, .post .delete,
    .preLoad, .postLoad, .saveOrUpdate, .validation]

def name : EventKind → String
  | .pre .insert => "PreInsert"
  | .post .insert => "PostInsert"
  | .pre .update => "PreUpdate"
  | .post .update => "PostUpdate"
  | .pre .delete => "PreDelete"
  | .post .delete => "PostDelete"
  | .preLoad => "PreLoad"
  | .postLoad => "PostLoad"
  | .saveOrUpdate => "SaveOrUpdate"
  | .validation => "Validation"

/-- An event announced before a write may be vetoed; an event of another kind reports what
happens anyway.
-/
def isCancellable : EventKind → Bool
  | .pre _ => true
  | _ => false

/-- The kind that a text names, up to the case of ASCII letters. -/
def ofName? (text : String) : Option EventKind :=
  all.find? (fun kind => Text.sameIgnoringCase kind.name.toList text.toList)

def index (kind : EventKind) : Nat := all.idxOf kind

end EventKind

/-- What a hook before a write decides: the write goes on, or it is vetoed. -/
inductive Decision where
  | proceed
  | veto
  deriving DecidableEq, Repr

namespace Decision

/-- A hook that says nothing lets the write go on. -/
instance : Inhabited Decision := ⟨.proceed⟩

def isVeto : Decision → Bool
  | .veto => true
  | .proceed => false

end Decision

end Lifecycle
