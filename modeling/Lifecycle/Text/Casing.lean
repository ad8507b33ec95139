/-! Texts compared without regard to the case of ASCII letters. Every other character is
compared as it is, so no Unicode case folding takes place.
-/

namespace Lifecycle.Text

/-- Equality up to the case of ASCII letters: `Char.toLower` moves `A` to `Z` and nothing else,
so texts of different length never agree.
-/
def sameIgnoringCase (left right : List Char) : Bool :=
  left.map Char.toLower == right.map Char.toLower

end Lifecycle.Text
