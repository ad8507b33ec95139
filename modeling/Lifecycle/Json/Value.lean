/-! Values of a JSON document. A string is kept as it was written, piece by piece: an escape of
a code unit need not be half of a character, and only who needs the text has to pair the units.
-/

namespace Lifecycle

/-- A piece of a written string: a character, written raw or by a short escape, or the escape
of one UTF-16 code unit.
-/
inductive Json.Piece where
  | char (c : Char)
  | unit (code : Nat)
  deriving DecidableEq, Repr

/-- A value of a JSON document. Numbers keep their digits, objects their members in order. -/
inductive Json where
  | null
  | bool (value : Bool)
  | number (digits : List Char)
  | string (text : List Json.Piece)
  | array (items : List Json)
  | object (members : List (List Json.Piece × Json))

namespace Json

def isLeading (code : Nat) : Bool := 0xD800 ≤ code && code < 0xDC00

def isTrailing (code : Nat) : Bool := 0xDC00 ≤ code && code < 0xE000

/-- The character that a surrogate pair stands for. -/
def pairUp (leading trailing : Nat) : Char :=
  Char.ofNat (0x10000 + (leading - 0xD800) * 0x400 + (trailing - 0xDC00))

/-- The text of a string, if every surrogate in it is half of a pair. -/
def decode : List Piece → Option (List Char)
  | [] => some []
  | .char c :: rest => (decode rest).map (c :: ·)
  | .unit leading :: .unit trailing :: rest =>
      if isLeading leading then
        if isTrailing trailing then (decode rest).map (pairUp leading trailing :: ·)
        else none
      else if isTrailing leading then none
      else (decode (.unit trailing :: rest)).map (Char.ofNat leading :: ·)
  | .unit code :: rest =>
      if isLeading code || isTrailing code then none
      else (decode rest).map (Char.ofNat code :: ·)

end Json

end Lifecycle
