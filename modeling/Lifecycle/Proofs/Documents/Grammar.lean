import Lifecycle.Proofs.Documents.Reading

/-! The texts that are JSON documents, and the values that they are written for. White space may stand
around every token, characters of a string may be escaped, and values are nested as deep as they
like. Every such text is read as the value that it is written for.
-/

namespace Lifecycle.Json

-----------------------------------------------------------------------------------------
-- Tokens
-----------------------------------------------------------------------------------------

/-- White space, of which any amount may stand between two tokens. -/
def Gap (text : List Char) : Prop := ∀ c ∈ text, c ∈ [' ', '\n', '\t', '\r']

def digits : List Char := ['0', '1', '2', '3', '4', '5', '6', '7', '8', '9']

/-- At least one digit. -/
def Digits (text : List Char) : Prop := text ≠ [] ∧ ∀ c ∈ text, c ∈ digits

/-- What a number has before its point: a zero, or digits the first of which is none. -/
inductive Whole : List Char → Prop where
  | zero : Whole ['0']
  | positive {first : Char} {rest : List Char} (leads : first ∈ digits) (nonzero : first ≠ '0')
    (others : ∀ c ∈ rest, c ∈ digits)
    : Whole (first :: rest)

inductive Fraction : List Char → Prop where
  | absent : Fraction []
  | present {text : List Char} (digits : Digits text) : Fraction ('.' :: text)

inductive Exponent : List Char → Prop where
  | absent : Exponent []
  | present {mark : Char} {sign text : List Char} (marks : mark ∈ ['e', 'E'])
    (signed : sign ∈ [[], ['+'], ['-']]) (digits : Digits text)
    : Exponent (mark :: (sign ++ text))

inductive Number : List Char → Prop where
  | parts {sign whole fraction exponent : List Char} (signed : sign ∈ [[], ['-']])
    (integral : Whole whole) (fractional : Fraction fraction) (scaled : Exponent exponent)
    : Number (sign ++ (whole ++ (fraction ++ exponent)))

/-- The digits of the number of a code unit, each with what it counts. -/
def hexDigits : List (Char × Nat) :=
  "0123456789abcdef".toList.zip (List.range 16) ++ "ABCDEF".toList.zip (List.range' 10 6)

/-- The letters of the short escapes, each with the character that it stands for. -/
def shortEscapes : List (Char × Char) :=
  [('"', '"'), ('\\', '\\'), ('/', '/'), ('b', '\x08'), ('f', '\x0c'), ('n', '\n'), ('r', '\r'),
    ('t', '\t')]

/-- One piece of a string: a character that stands for itself, a short escape, or the escape of a
code unit.
-/
inductive WritesPiece : List Char → Piece → Prop where
  | raw {c : Char} (printed : 0x20 ≤ c.toNat) (unquoted : c ≠ '"') (unescaped : c ≠ '\\')
    : WritesPiece [c] (.char c)
  | short {letter c : Char} (known : (letter, c) ∈ shortEscapes)
    : WritesPiece ['\\', letter] (.char c)
  | unit {first second third fourth : Char} {one two three four : Nat}
    (counts : (first, one) ∈ hexDigits) (counts2 : (second, two) ∈ hexDigits)
    (counts3 : (third, three) ∈ hexDigits) (counts4 : (fourth, four) ∈ hexDigits)
    : WritesPiece ['\\', 'u', first, second, third, fourth]
        (.unit (((one * 16 + two) * 16 + three) * 16 + four))

/-- The inside of a string. -/
inductive WritesPieces : List Char → List Piece → Prop where
  | nil : WritesPieces [] []
  | cons {first rest : List Char} {piece : Piece} {pieces : List Piece}
    (now : WritesPiece first piece) (later : WritesPieces rest pieces)
    : WritesPieces (first ++ rest) (piece :: pieces)

/-- A string, between its quotes. -/
inductive Quotes : List Char → List Piece → Prop where
  | quoted {text : List Char} {pieces : List Piece} (inside : WritesPieces text pieces)
    : Quotes ('"' :: (text ++ ['"'])) pieces

-----------------------------------------------------------------------------------------
-- Documents
-----------------------------------------------------------------------------------------

/-- What a part of a document is written for: a value, by itself or with white space around it, the
items of an array, a member of an object, or its members.
-/
inductive Part where
  | value (value : Json)
  | padded (value : Json)
  | items (values : List Json)
  | member (name : List Piece) (value : Json)
  | members (members : List (List Piece × Json))

/-- The text is written for the part of a document. -/
inductive Writes : List Char → Part → Prop where
  | null : Writes ['n', 'u', 'l', 'l'] (.value .null)
  | true : Writes ['t', 'r', 'u', 'e'] (.value (.bool true))
  | false : Writes ['f', 'a', 'l', 's', 'e'] (.value (.bool false))
  | number {text : List Char} (number : Number text) : Writes text (.value (.number text))
  | string {text : List Char} {pieces : List Piece} (quotes : Quotes text pieces)
    : Writes text (.value (.string pieces))
  | emptyArray {blank : List Char} (gap : Gap blank)
    : Writes ('[' :: (blank ++ [']'])) (.value (.array []))
  | array {text : List Char} {values : List Json} (items : Writes text (.items values))
    : Writes ('[' :: (text ++ [']'])) (.value (.array values))
  | emptyObject {blank : List Char} (gap : Gap blank)
    : Writes ('\x7b' :: (blank ++ ['\x7d'])) (.value (.object []))
  | object {text : List Char} {members : List (List Piece × Json)}
    (inside : Writes text (.members members))
    : Writes ('\x7b' :: (text ++ ['\x7d'])) (.value (.object members))
  | padded {before text after : List Char} {value : Json} (gap : Gap before)
    (inner : Writes text (.value value)) (gap' : Gap after)
    : Writes (before ++ (text ++ after)) (.padded value)
  | lastItem {text : List Char} {value : Json} (item : Writes text (.padded value))
    : Writes text (.items [value])
  | nextItem {text rest : List Char} {value : Json} {values : List Json}
    (item : Writes text (.padded value)) (later : Writes rest (.items values))
    : Writes (text ++ ',' :: rest) (.items (value :: values))
  | member {before quoted after text : List Char} {name : List Piece} {value : Json}
    (gap : Gap before) (quotes : Quotes quoted name) (gap' : Gap after)
    (item : Writes text (.padded value))
    : Writes (before ++ (quoted ++ (after ++ ':' :: text))) (.member name value)
  | lastMember {text : List Char} {name : List Piece} {value : Json}
    (member : Writes text (.member name value))
    : Writes text (.members [(name, value)])
  | nextMember {text rest : List Char} {name : List Piece} {value : Json}
    {members : List (List Piece × Json)} (member : Writes text (.member name value))
    (later : Writes rest (.members members))
    : Writes (text ++ ',' :: rest) (.members ((name, value) :: members))

/-- The text is a document that is written for the value. -/
def Document (text : List Char) (value : Json) : Prop := Writes text (.padded value)

/-- No white space is needed around a value. -/
theorem Writes.tight {text : List Char} {value : Json} (writes : Writes text (.value value))
    : Writes text (.padded value) := by
  have none : Gap [] := by simp [Gap]
  simpa using Writes.padded none writes none

-----------------------------------------------------------------------------------------
-- Reading tokens
-----------------------------------------------------------------------------------------

open Reader (Leads)

theorem isSpace_of_mem {c : Char} (blank : c ∈ [' ', '\n', '\t', '\r']) : isSpace c = true := by
  have all : ∀ c ∈ [' ', '\n', '\t', '\r'], isSpace c = true := by simp [isSpace]
  exact all c blank

/-- Where white space is passed over, a gap leads nowhere else. -/
theorem Gap.leads {text : List Char} (gap : Gap text) {reader : Reader}
    (waits : ∀ c, isSpace c = true → reader.step? c = some reader)
    : reader.Leads text reader := by
  induction text with
  | nil => rfl
  | cons c rest ih =>
      have blank := isSpace_of_mem (gap c List.mem_cons_self)
      exact .cons (waits c blank) (ih (fun d member => gap d (List.mem_cons_of_mem c member)))

/-- A character that continues a number is one more of its digits. -/
theorem step?_number {part later : NumberPart} {c : Char} (next : part.next? c = some later)
    (seen : List Char) (stack : List Frame)
    : Reader.step? ⟨.number part seen, stack⟩ c = some ⟨.number later (c :: seen), stack⟩ := by
  simp [Reader.step?, next]

/-- Digits lead on in a part of a number that goes on with every digit. -/
theorem leads_digits {text : List Char} (all : ∀ c ∈ text, c ∈ digits) {part : NumberPart}
    (goesOn : ∀ c ∈ digits, part.next? c = some part) (seen : List Char) (stack : List Frame)
    : Leads ⟨.number part seen, stack⟩ text ⟨.number part (text.reverse ++ seen), stack⟩ := by
  induction text generalizing seen with
  | nil => rfl
  | cons c rest ih =>
      have next := step?_number (goesOn c (all c List.mem_cons_self)) seen stack
      have follows := ih (fun d member => all d (List.mem_cons_of_mem c member)) (c :: seen)
      rw [List.reverse_cons, List.append_assoc]
      exact .cons next follows

/-- At least one digit leads on to a part that goes on with every digit. -/
theorem Digits.leads {text : List Char} (run : Digits text) {start part : NumberPart}
    (begins : ∀ c ∈ digits, start.next? c = some part)
    (goesOn : ∀ c ∈ digits, part.next? c = some part) (seen : List Char) (stack : List Frame)
    : Leads ⟨.number start seen, stack⟩ text ⟨.number part (text.reverse ++ seen), stack⟩ := by
  obtain ⟨nonempty, all⟩ := run
  cases text with
  | nil => exact absurd rfl nonempty
  | cons c rest =>
      have next := step?_number (begins c (all c List.mem_cons_self)) seen stack
      have follows :=
        leads_digits (fun d member => all d (List.mem_cons_of_mem c member)) goesOn (c :: seen)
          stack
      rw [List.reverse_cons, List.append_assoc]
      exact .cons next follows

/-- A digit that is not zero begins a number. -/
theorem step?_value_digit {c : Char} (digit : c ∈ digits) (nonzero : c ≠ '0') (stack : List Frame)
    : Reader.step? ⟨.value, stack⟩ c = some ⟨.number .whole [c], stack⟩ := by
  simp only [digits, List.mem_cons, List.not_mem_nil, or_false] at digit
  rcases digit with rfl | rfl | rfl | rfl | rfl | rfl | rfl | rfl | rfl | rfl
  · exact absurd rfl nonzero
  all_goals rfl

/-- A sign and the whole part after it lead to where a number may end or go on with a point. -/
theorem Whole.leads {sign text : List Char} (signed : sign ∈ [[], ['-']]) (whole : Whole text)
    (stack : List Frame)
    : ∃ part ∈ [NumberPart.zero, .whole],
        Leads ⟨.value, stack⟩ (sign ++ text) ⟨.number part (sign ++ text).reverse, stack⟩ := by
  have negative : Reader.step? ⟨.value, stack⟩ '-' = some ⟨.number .minus ['-'], stack⟩ := rfl
  simp only [List.mem_cons, List.not_mem_nil, or_false] at signed
  cases whole with
  | zero =>
      refine ⟨.zero, by simp, ?_⟩
      rcases signed with rfl | rfl
      · exact .cons rfl rfl
      · exact .cons negative (.cons rfl rfl)
  | @positive first rest leads nonzero others =>
      have goesOn : ∀ c ∈ digits, NumberPart.whole.next? c = some .whole := by
        simp [Json.digits, NumberPart.next?]
      have begins : ∀ c ∈ digits, c ≠ '0' → NumberPart.minus.next? c = some .whole := by
        simp [Json.digits, NumberPart.next?]
      refine ⟨.whole, by simp, ?_⟩
      rcases signed with rfl | rfl
      · have follows := leads_digits others goesOn [first] stack
        exact .cons (step?_value_digit leads nonzero stack) (by simpa using follows)
      · have follows := leads_digits others goesOn [first, '-'] stack
        refine .cons negative (.cons (step?_number (begins first leads nonzero) _ _) ?_)
        simpa using follows

theorem Fraction.leads {text : List Char} (fraction : Fraction text) {part : NumberPart}
    (begun : part ∈ [NumberPart.zero, .whole]) (seen : List Char) (stack : List Frame)
    : ∃ later ∈ [NumberPart.zero, .whole, .fraction],
        Leads ⟨.number part seen, stack⟩ text ⟨.number later (text.reverse ++ seen), stack⟩ := by
  cases fraction with
  | absent =>
      refine ⟨part, ?_, rfl⟩
      simp only [List.mem_cons, List.not_mem_nil, or_false] at begun ⊢
      exact begun.imp id .inl
  | @present text digits =>
      have point : ∀ part ∈ [NumberPart.zero, .whole], part.next? '.' = some .point := by decide
      have begins : ∀ c ∈ Json.digits, NumberPart.point.next? c = some .fraction := by
        simp [Json.digits, NumberPart.next?]
      have goesOn : ∀ c ∈ Json.digits, NumberPart.fraction.next? c = some .fraction := by
        simp [Json.digits, NumberPart.next?]
      have follows := digits.leads begins goesOn ('.' :: seen) stack
      refine ⟨.fraction, by simp, .cons (step?_number (point part begun) _ _) ?_⟩
      simpa using follows

theorem Exponent.leads {text : List Char} (exponent : Exponent text) {part : NumberPart}
    (begun : part ∈ [NumberPart.zero, .whole, .fraction]) (seen : List Char) (stack : List Frame)
    : ∃ later,
        later.isComplete = true
        ∧ Leads ⟨.number part seen, stack⟩ text ⟨.number later (text.reverse ++ seen), stack⟩ := by
  cases exponent with
  | absent =>
      have complete : ∀ part ∈ [NumberPart.zero, .whole, .fraction], part.isComplete = true := by
        decide
      exact ⟨part, complete part begun, rfl⟩
  | @present mark sign text marks signed digits =>
      have marked
          : ∀ mark ∈ ['e', 'E'],
              ∀ part ∈ [NumberPart.zero, .whole, .fraction], part.next? mark = some .exponent := by
        simp [NumberPart.next?]
      have first := marked mark marks part begun
      refine ⟨.power, rfl, .cons (step?_number first _ _) ?_⟩
      simp only [List.mem_cons, List.not_mem_nil, or_false] at signed
      have begins : ∀ c ∈ Json.digits, NumberPart.exponent.next? c = some .power := by
        simp [Json.digits, NumberPart.next?]
      have begins' : ∀ c ∈ Json.digits, NumberPart.sign.next? c = some .power := by
        simp [Json.digits, NumberPart.next?]
      have goesOn : ∀ c ∈ Json.digits, NumberPart.power.next? c = some .power := by
        simp [Json.digits, NumberPart.next?]
      rcases signed with rfl | rfl | rfl
      · simpa using digits.leads begins goesOn (mark :: seen) stack
      · have follows := digits.leads begins' goesOn ('+' :: mark :: seen) stack
        exact .cons rfl (by simpa using follows)
      · have follows := digits.leads begins' goesOn ('-' :: mark :: seen) stack
        exact .cons rfl (by simpa using follows)

/-- A number leads to where it may end. -/
theorem Number.leads {text : List Char} (number : Number text) (stack : List Frame)
    : ∃ part,
        part.isComplete = true
        ∧ Leads ⟨.value, stack⟩ text ⟨.number part text.reverse, stack⟩ := by
  cases number with
  | @parts sign whole fraction exponent signed integral fractional scaled =>
      obtain ⟨part, begun, leads⟩ := integral.leads signed stack
      obtain ⟨part', begun', leads'⟩ := fractional.leads begun (sign ++ whole).reverse stack
      obtain ⟨part'', complete, leads''⟩ :=
        scaled.leads begun' (fraction.reverse ++ (sign ++ whole).reverse) stack
      refine ⟨part'', complete, ?_⟩
      have follows := leads.append (leads'.append leads'')
      simpa using follows

/-- A piece of a string is read as the piece that it is written for. -/
theorem WritesPiece.leads {text : List Char} {piece : Piece} (writes : WritesPiece text piece)
    (use : Use) (pieces : List Piece) (stack : List Frame)
    : Leads ⟨.string use pieces, stack⟩ text ⟨.string use (piece :: pieces), stack⟩ := by
  cases writes with
  | @raw c printed unquoted unescaped =>
      refine .cons ?_ rfl
      simp [Reader.step?, unquoted, unescaped, printed]
  | @short letter c known =>
      have stands : ∀ entry ∈ shortEscapes, shortEscape? entry.1 = some entry.2 := by decide
      have other : ∀ entry ∈ shortEscapes, entry.1 ≠ 'u' := by decide
      refine .cons rfl (.cons ?_ rfl)
      simp [Reader.step?, stands _ known, other _ known]
  | unit counts counts2 counts3 counts4 =>
      have reads : ∀ entry ∈ hexDigits, hexDigit? entry.1 = some entry.2 := by decide
      exact leads_unit (reads _ counts) (reads _ counts2) (reads _ counts3) (reads _ counts4) use
        pieces stack

theorem WritesPieces.leads {text : List Char} {written : List Piece}
    (writes : WritesPieces text written) (use : Use) (pieces : List Piece) (stack : List Frame)
    : Leads ⟨.string use pieces, stack⟩ text
        ⟨.string use (written.reverse ++ pieces), stack⟩ := by
  induction writes generalizing pieces with
  | nil => rfl
  | @cons first rest piece later now _ ih =>
      rw [List.reverse_cons, List.append_assoc]
      exact (now.leads use pieces stack).append (ih (piece :: pieces))

/-- A string is read as the pieces that it is written for, wherever a string may begin. -/
theorem Quotes.leads {text : List Char} {written : List Piece} (quotes : Quotes text written)
    {use : Use} {stack : List Frame} {waiting : Reader}
    (opens : waiting.step? '"' = some ⟨.string use [], stack⟩)
    : waiting.Leads text ⟨.close use written.reverse, stack⟩ := by
  cases quotes with
  | quoted inside =>
      have follows := inside.leads use [] stack
      rw [List.append_nil] at follows
      exact .cons opens (follows.append (.cons rfl rfl))

/-- A text without quotes, backslashes and control characters may be written as it is. -/
theorem writesPieces_of_plain {text : List Char}
    (plain : ∀ c ∈ text, 0x20 ≤ c.toNat ∧ c ≠ '"' ∧ c ≠ '\\')
    : WritesPieces text (text.map .char) := by
  induction text with
  | nil => exact .nil
  | cons c rest ih =>
      obtain ⟨printed, unquoted, unescaped⟩ := plain c List.mem_cons_self
      exact .cons (.raw printed unquoted unescaped)
        (ih (fun d member => plain d (List.mem_cons_of_mem c member)))

theorem WritesPieces.append {first rest : List Char} {pieces later : List Piece}
    (writes : WritesPieces first pieces) (writes' : WritesPieces rest later)
    : WritesPieces (first ++ rest) (pieces ++ later) := by
  induction writes with
  | nil => exact writes'
  | cons now _ ih =>
      rw [List.append_assoc]
      exact .cons now ih

end Lifecycle.Json
