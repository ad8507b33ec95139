import Lifecycle.Text.Extending
import Lifecycle.Text.Invisible

/-! Texts in double quotes, written so that a reader sees every character in them. What would not
be seen, or would merge with what stands before it, is written by its number.
-/

namespace Lifecycle.Text

/-- The number of a character between braces, with hexadecimal digits in lower case. -/
def numbered (c : Char) : List Char :=
  ['\\', 'u', '{'] ++ Nat.toDigits 16 c.toNat ++ ['}']

def quotedChar (c : Char) : List Char :=
  if c = '\x00' then ['\\', '0']
  else if c = '\t' then ['\\', 't']
  else if c = '\r' then ['\\', 'r']
  else if c = '\n' then ['\\', 'n']
  else if c = '"' then ['\\', '"']
  else if c = '\\' then ['\\', '\\']
  else if isExtending c || isInvisible c then numbered c
  else [c]

def quoted (text : String) : String :=
  "\"" ++ String.ofList (text.toList.flatMap quotedChar) ++ "\""

end Lifecycle.Text
