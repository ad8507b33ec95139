import Lifecycle.Json.Value

/-! Reading JSON one character at a time. The reader is a machine with a stack of unfinished
containers, so neither the nesting of a document nor the length of its numbers is limited, and
reading a text in two parts is the same as reading it at once.
-/

namespace Lifecycle.Json

/-- The characters that may stand between the tokens of a document. -/
def isSpace (c : Char) : Bool := c == ' ' || c == '\n' || c == '\t' || c == '\r'

/-- A container part way through: its finished contents, last first, and the name of the member
that is being read.
-/
inductive Frame where
  | array (items : List Json)
  | object (members : List (List Piece × Json)) (name : List Piece)

/-- What a string is read for: as a value, or as the name of the next member of an object whose
finished members are given.
-/
inductive Use where
  | value
  | name (members : List (List Piece × Json))

/-- How far a number has been read. -/
inductive NumberPart where
  | minus
  | zero
  | whole
  | point
  | fraction
  | exponent
  | sign
  | power
  deriving DecidableEq, Repr

/-- A number may end here. -/
def NumberPart.isComplete : NumberPart → Bool
  | .zero | .whole | .fraction | .power => true
  | .minus | .point | .exponent | .sign => false

/-- The part that a number is in after one more character, if the character continues it. No
digit follows a leading zero.
-/
def NumberPart.next? (part : NumberPart) (c : Char) : Option NumberPart :=
  match part with
  | .minus => if c == '0' then some .zero else if c.isDigit then some .whole else none
  | .zero => if c == '.' then some .point else if c == 'e' || c == 'E' then some .exponent else none
  | .whole =>
      if c.isDigit then some .whole
      else if c == '.' then some .point
      else if c == 'e' || c == 'E' then some .exponent
      else none
  | .point => if c.isDigit then some .fraction else none
  | .fraction =>
      if c.isDigit then some .fraction
      else if c == 'e' || c == 'E' then some .exponent
      else none
  | .exponent =>
      if c == '+' || c == '-' then some .sign else if c.isDigit then some .power else none
  | .sign => if c.isDigit then some .power else none
  | .power => if c.isDigit then some .power else none

/-- What the reader waits for. Digits and pieces read so far are kept last first. -/
inductive Mode where
  | value
  | firstItem
  | firstMember
  | member (members : List (List Piece × Json))
  | colon (members : List (List Piece × Json)) (name : List Piece)
  | string (use : Use) (pieces : List Piece)
  | escape (use : Use) (pieces : List Piece)
  | unit (use : Use) (pieces : List Piece) (missing code : Nat)
  | literal (rest : List Char) (value : Json)
  | number (part : NumberPart) (digits : List Char)
  | after (value : Json)

/-- A reader part way through a document, with the innermost container on top. -/
structure Reader where
  mode : Mode
  stack : List Frame

def hexDigit? (c : Char) : Option Nat :=
  if '0' ≤ c && c ≤ '9' then some (c.toNat - '0'.toNat)
  else if 'a' ≤ c && c ≤ 'f' then some (c.toNat - 'a'.toNat + 10)
  else if 'A' ≤ c && c ≤ 'F' then some (c.toNat - 'A'.toNat + 10)
  else none

/-- The character that a short escape stands for. -/
def shortEscape? (c : Char) : Option Char :=
  if c == '"' || c == '\\' || c == '/' then some c
  else if c == 'b' then some '\x08'
  else if c == 'f' then some '\x0c'
  else if c == 'n' then some '\n'
  else if c == 'r' then some '\r'
  else if c == 't' then some '\t'
  else none

/-- The first character of a value. -/
def Mode.start? (c : Char) : Option Mode :=
  if c == '"' then some (.string .value [])
  else if c == 't' then some (.literal "rue".toList (.bool true))
  else if c == 'f' then some (.literal "alse".toList (.bool false))
  else if c == 'n' then some (.literal "ull".toList .null)
  else if c == '-' then some (.number .minus [c])
  else if c == '0' then some (.number .zero [c])
  else if c.isDigit then some (.number .whole [c])
  else none

/-- A value begins, or the space before it goes on. -/
def Reader.begin? (stack : List Frame) (waiting : Mode) (c : Char) : Option Reader :=
  if isSpace c then some ⟨waiting, stack⟩
  else if c == '[' then some ⟨.firstItem, stack⟩
  else if c == '\x7b' then some ⟨.firstMember, stack⟩
  else (Mode.start? c).map (⟨·, stack⟩)

/-- What follows a finished value: space, or the punctuation of the container it stands in. -/
def Reader.follow? (value : Json) (stack : List Frame) (c : Char) : Option Reader :=
  if isSpace c then some ⟨.after value, stack⟩
  else
    match stack with
    | [] => none
    | .array items :: outer =>
        if c == ',' then some ⟨.value, .array (value :: items) :: outer⟩
        else if c == ']' then some ⟨.after (.array (value :: items).reverse), outer⟩
        else none
    | .object members name :: outer =>
        if c == ',' then some ⟨.member ((name, value) :: members), outer⟩
        else if c == '\x7d' then
          some ⟨.after (.object ((name, value) :: members).reverse), outer⟩
        else none

/-- A string that has been closed becomes a value, or a name that waits for its colon. -/
def Mode.close (use : Use) (pieces : List Piece) : Mode :=
  match use with
  | .value => .after (.string pieces.reverse)
  | .name members => .colon members pieces.reverse

/-- Reads one character; `none` if no document continues so. A string holds no raw control
character, and a container ends with a value, not with a comma.
-/
def Reader.step? (reader : Reader) (c : Char) : Option Reader :=
  let stack := reader.stack
  match reader.mode with
  | .value => Reader.begin? stack .value c
  | .firstItem =>
      if isSpace c then some reader
      else if c == ']' then some ⟨.after (.array []), stack⟩
      else Reader.begin? (.array [] :: stack) .value c
  | .firstMember =>
      if isSpace c then some reader
      else if c == '\x7d' then some ⟨.after (.object []), stack⟩
      else if c == '"' then some ⟨.string (.name []) [], stack⟩
      else none
  | .member members =>
      if isSpace c then some reader
      else if c == '"' then some ⟨.string (.name members) [], stack⟩
      else none
  | .colon members name =>
      if isSpace c then some reader
      else if c == ':' then some ⟨.value, .object members name :: stack⟩
      else none
  | .string use pieces =>
      if c == '"' then some ⟨.close use pieces, stack⟩
      else if c == '\\' then some ⟨.escape use pieces, stack⟩
      else if c.toNat < 0x20 then none
      else some ⟨.string use (.char c :: pieces), stack⟩
  | .escape use pieces =>
      if c == 'u' then some ⟨.unit use pieces 4 0, stack⟩
      else (shortEscape? c).map (fun plain => ⟨.string use (.char plain :: pieces), stack⟩)
  | .unit use pieces missing code =>
      (hexDigit? c).map (fun digit =>
        let code := code * 16 + digit
        if missing ≤ 1 then ⟨.string use (.unit code :: pieces), stack⟩
        else ⟨.unit use pieces (missing - 1) code, stack⟩)
  | .literal rest value =>
      match rest with
      | [] => Reader.follow? value stack c
      | expected :: rest =>
          if c == expected then
            some ⟨if rest.isEmpty then .after value else .literal rest value, stack⟩
          else none
  | .number part digits =>
      match part.next? c with
      | some part => some ⟨.number part (c :: digits), stack⟩
      | none =>
          if part.isComplete then Reader.follow? (.number digits.reverse) stack c else none
  | .after value => Reader.follow? value stack c

def Reader.run? : Reader → List Char → Option Reader
  | reader, [] => some reader
  | reader, c :: rest =>
      match reader.step? c with
      | some next => next.run? rest
      | none => none

/-- The document that has been read, if it may end here. -/
def Reader.finish? (reader : Reader) : Option Json :=
  match reader.stack, reader.mode with
  | [], .after value => some value
  | [], .number part digits => if part.isComplete then some (.number digits.reverse) else none
  | _, _ => none

def read? (text : List Char) : Option Json :=
  (Reader.run? ⟨.value, []⟩ text).bind Reader.finish?

end Lifecycle.Json
