/-! Paths of names joined by the separator `::`. `trimSeparators` and `isBelow` look at the text
alone; `segments` reads the same text as a list of names, so that membership in a package can
also be said of lists.
-/

namespace Lifecycle.Text.Path

/-- What stands between two names of a path. -/
def separator : List Char := [':', ':']

/-- A text without the separators it begins with. -/
def dropSeparators : List Char → List Char
  | ':' :: ':' :: rest => dropSeparators rest
  | text => text

/-- A text without the separators it ends with. A separator read backwards is itself, so the
text is turned round, relieved of what it now begins with, and turned back.
-/
def trimSeparators (text : List Char) : List Char :=
  (dropSeparators text.reverse).reverse

/-- A path lies below a package if it continues the trimmed package with a separator. Nothing
lies below a package of which trimming leaves nothing, and no path lies below itself.
-/
def isBelow (package path : List Char) : Bool :=
  let stem := trimSeparators package
  !stem.isEmpty && (stem ++ separator).isPrefixOf path

/-- The part of a text before its first separator, or all of it. -/
def beforeSeparator : List Char → List Char
  | ':' :: ':' :: _ => []
  | c :: rest => c :: beforeSeparator rest
  | [] => []

/-- The part of a path after its last separator, or all of it. -/
def lastSegment (path : List Char) : List Char :=
  (beforeSeparator path.reverse).reverse

/-- Puts a character in front of the first segment. -/
def pushFront (c : Char) : List (List Char) → List (List Char)
  | [] => [[c]]
  | first :: rest => (c :: first) :: rest

/-- The names of a path, split at every separator from the left. The empty text is one empty
name.
-/
def segments : List Char → List (List Char)
  | ':' :: ':' :: rest => [] :: segments rest
  | c :: rest => pushFront c (segments rest)
  | [] => [[]]

end Lifecycle.Text.Path
