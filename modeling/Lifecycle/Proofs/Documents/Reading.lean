import Lifecycle.Json.Quoted
import Lifecycle.Json.Reader
import Mathlib.Data.List.Forall2

/-! What the reader makes of texts that are written. A written part of a document leads the reader
on to where the part has been read, whatever containers it stands in, so what is written piece by
piece is read piece by piece.
-/

namespace Lifecycle.Json

namespace Reader

/-- The text leads the one reader to the other. -/
def Leads (reader : Reader) (text : List Char) (reached : Reader) : Prop :=
  reader.run? text = some reached

theorem Leads.cons {reader next reached : Reader} {c : Char} {text : List Char}
    (stepped : reader.step? c = some next) (rest : next.Leads text reached)
    : reader.Leads (c :: text) reached := by
  rw [Leads, run?, stepped]
  exact rest

/-- A text in two parts leads on by the one and then by the other. -/
theorem Leads.append {reader between reached : Reader} {first rest : List Char}
    (before : reader.Leads first between) (after : between.Leads rest reached)
    : reader.Leads (first ++ rest) reached := by
  induction first generalizing reader with
  | nil =>
      obtain rfl := Option.some.inj before
      exact after
  | cons c others ih =>
      rw [Leads, run?] at before
      split at before
      · rename_i next stepped
        exact .cons stepped (ih before)
      · cases before

end Reader

open Reader (Leads)

-----------------------------------------------------------------------------------------
-- Strings
-----------------------------------------------------------------------------------------

/-- An escape of a code unit that is no surrogate stands for the character with its number. -/
theorem decode_unit {code : Nat} (leading : isLeading code = false)
    (trailing : isTrailing code = false) (rest : List Piece)
    : decode (.unit code :: rest) = (decode rest).map (Char.ofNat code :: ·) := by
  cases rest with
  | nil => simp [decode, leading, trailing]
  | cons piece others => cases piece <;> simp [decode, leading, trailing]

/-- A hexadecimal digit is read as the number that it was written for. -/
theorem hexDigit?_hexDigit {digit : Nat} (small : digit < 16)
    : hexDigit? (hexDigit digit) = some digit := by
  have all : ∀ digit : Fin 16, hexDigit? (hexDigit digit) = some digit.val := by decide
  exact all ⟨digit, small⟩

/-- The escape of a code unit is read as the unit that its four digits tell. -/
theorem leads_unit {first second third fourth : Char} {one two three four : Nat}
    (reads : hexDigit? first = some one) (reads2 : hexDigit? second = some two)
    (reads3 : hexDigit? third = some three) (reads4 : hexDigit? fourth = some four) (use : Use)
    (pieces : List Piece) (stack : List Frame)
    : Leads ⟨.string use pieces, stack⟩ ['\\', 'u', first, second, third, fourth]
        ⟨.string use (.unit (((one * 16 + two) * 16 + three) * 16 + four) :: pieces), stack⟩ := by
  have digit {c : Char} {value : Nat} (reads : hexDigit? c = some value) (missing code : Nat)
      : Reader.step? ⟨.unit use pieces missing code, stack⟩ c
        = some (if missing ≤ 1 then ⟨.string use (.unit (code * 16 + value) :: pieces), stack⟩
          else ⟨.unit use pieces (missing - 1) (code * 16 + value), stack⟩) := by
    simp only [Reader.step?, reads, Option.map_some]
  have zero : 0 * 16 + one = one := by omega
  refine .cons rfl (.cons rfl (.cons (digit reads 4 0) (.cons (digit reads2 3 _) ?_)))
  refine .cons (digit reads3 2 _) (.cons (digit reads4 1 _) ?_)
  rw [zero]
  rfl

/-- A character is written so that it is read as a piece that stands for it. -/
theorem exists_leads_escapeChar (c : Char)
    : ∃ piece,
        (∀ rest, decode (piece :: rest) = (decode rest).map (c :: ·))
        ∧ ∀ use pieces stack,
            Leads ⟨.string use pieces, stack⟩ (escapeChar c)
              ⟨.string use (piece :: pieces), stack⟩ := by
  by_cases short : c ∈ ['"', '\\', '\x08', '\x0c', '\n', '\r', '\t']
  · refine ⟨.char c, fun _ => rfl, fun use pieces stack => ?_⟩
    simp only [List.mem_cons, List.not_mem_nil, or_false] at short
    rcases short with rfl | rfl | rfl | rfl | rfl | rfl | rfl <;> rfl
  · simp only [List.mem_cons, List.not_mem_nil, or_false, not_or] at short
    obtain ⟨quote, slash, back, feed, line, carriage, tab⟩ := short
    by_cases control : c.toNat < 0x20
    · have written
          : escapeChar c
            = ['\\', 'u', '0', '0', hexDigit (c.toNat / 16), hexDigit (c.toNat % 16)] := by
        simp [escapeChar, quote, slash, back, feed, line, carriage, tab, control]
      have high : hexDigit? (hexDigit (c.toNat / 16)) = some (c.toNat / 16) :=
        hexDigit?_hexDigit (by omega)
      have low : hexDigit? (hexDigit (c.toNat % 16)) = some (c.toNat % 16) :=
        hexDigit?_hexDigit (by omega)
      have number : ((0 * 16 + 0) * 16 + c.toNat / 16) * 16 + c.toNat % 16 = c.toNat := by omega
      refine ⟨.unit c.toNat, fun rest => ?_, fun use pieces stack => ?_⟩
      · have leading : isLeading c.toNat = false := by
          rw [isLeading, Bool.and_eq_false_iff, decide_eq_false_iff_not]
          omega
        have trailing : isTrailing c.toNat = false := by
          rw [isTrailing, Bool.and_eq_false_iff, decide_eq_false_iff_not]
          omega
        rw [decode_unit leading trailing rest, Char.ofNat_toNat]
      · have zero : hexDigit? '0' = some 0 := rfl
        have reads := leads_unit zero zero high low use pieces stack
        rwa [number, ← written] at reads
    · have written : escapeChar c = [c] := by
        simp [escapeChar, quote, slash, back, feed, line, carriage, tab, control]
      refine ⟨.char c, fun _ => rfl, fun use pieces stack => ?_⟩
      rw [written]
      refine .cons ?_ rfl
      simp [Reader.step?, quote, slash, control]

/-- A text is written so that it is read as pieces that stand for it, by induction on its
characters.
-/
theorem exists_leads_escaped (text : List Char)
    : ∃ written,
        decode written = some text
        ∧ ∀ use pieces stack,
            Leads ⟨.string use pieces, stack⟩ (text.flatMap escapeChar)
              ⟨.string use (written.reverse ++ pieces), stack⟩ := by
  induction text with
  | nil => exact ⟨[], rfl, fun _ _ _ => rfl⟩
  | cons c rest ih =>
      obtain ⟨piece, stands, leads⟩ := exists_leads_escapeChar c
      obtain ⟨written, decodes, follows⟩ := ih
      refine ⟨piece :: written, ?_, fun use pieces stack => ?_⟩
      · rw [stands, decodes, Option.map_some]
      · rw [List.flatMap_cons, List.reverse_cons, List.append_assoc]
        exact (leads use pieces stack).append (follows use (piece :: pieces) stack)

/-- A quoted text is read as a string that stands for it, wherever a string may begin. -/
theorem exists_leads_quote (text : List Char)
    : ∃ written,
        decode written = some text
        ∧ ∀ use stack waiting,
            Reader.step? waiting '"' = some ⟨.string use [], stack⟩
            → Leads waiting (quote text) ⟨.close use written.reverse, stack⟩ := by
  obtain ⟨written, decodes, leads⟩ := exists_leads_escaped text
  refine ⟨written, decodes, fun use stack waiting opens => ?_⟩
  have inside := leads use [] stack
  rw [List.append_nil] at inside
  exact .cons opens (inside.append (.cons rfl rfl))

-----------------------------------------------------------------------------------------
-- Values
-----------------------------------------------------------------------------------------

/-- The text is read as the value, whatever containers it stands in. -/
def Reads (text : List Char) (value : Json) : Prop :=
  ∀ stack, Leads ⟨.value, stack⟩ text ⟨.after value, stack⟩

/-- A quoted text is read as a value that stands for it. -/
theorem exists_reads_quote (text : List Char)
    : ∃ written, decode written = some text ∧ Reads (quote text) (.string written) := by
  obtain ⟨written, decodes, leads⟩ := exists_leads_quote text
  refine ⟨written, decodes, fun stack => ?_⟩
  have closed := leads .value stack ⟨.value, stack⟩ rfl
  rwa [Mode.close, List.reverse_reverse] at closed

theorem reads_bool (value : Bool)
    : Reads (if value then "true" else "false").toList (.bool value) := by
  intro stack
  cases value with
  | false => exact .cons rfl (.cons rfl (.cons rfl (.cons rfl (.cons rfl rfl))))
  | true => exact .cons rfl (.cons rfl (.cons rfl (.cons rfl rfl)))

/-- What begins a value begins the first item of an array too, by induction on the spaces before it.
-/
theorem leads_firstItem {stack : List Frame} {text : List Char} {reached : Reader}
    (leads : Leads ⟨.value, .array [] :: stack⟩ text reached) (begun : reached.mode ≠ .value)
    : Leads ⟨.firstItem, stack⟩ text reached := by
  induction text with
  | nil =>
      cases leads
      exact absurd rfl begun
  | cons c rest ih =>
      by_cases space : isSpace c = true
      · simp only [Leads, Reader.run?, Reader.step?, Reader.begin?, space, if_true] at leads ⊢
        exact ih leads
      · by_cases closes : c = ']'
        · subst closes
          cases leads
        · simpa [Leads, Reader.run?, Reader.step?, space, closes] using leads

/-- Values with a comma before each are read into the array that they stand in, by induction on the
values.
-/
theorem leads_items {texts : List (List Char)} {values : List Json}
    (reads : List.Forall₂ Reads texts values) (first : Json) (items : List Json)
    (stack : List Frame)
    : Leads ⟨.after first, .array items :: stack⟩ (texts.flatMap (',' :: ·) ++ [']'])
        ⟨.after (.array (items.reverse ++ first :: values)), stack⟩ := by
  induction reads generalizing first items with
  | nil =>
      refine .cons rfl ?_
      rw [List.reverse_cons]
      exact rfl
  | @cons text value texts values now later ih =>
      rw [List.flatMap_cons, List.cons_append, List.cons_append, List.append_assoc]
      have follows := ih value (first :: items)
      rw [List.reverse_cons, List.append_assoc] at follows
      exact .cons rfl ((now _).append follows)

/-- A list with commas between its texts is its first text and the others with a comma before each.
-/
theorem flatten_intersperse_cons (first : List Char) (others : List (List Char))
    : ((first :: others).intersperse [',']).flatten = first ++ others.flatMap (',' :: ·) := by
  induction others generalizing first with
  | nil => simp
  | cons next rest ih =>
      rw [List.intersperse_cons_cons, List.flatten_cons, List.flatten_cons, ih, List.flatMap_cons]
      rfl

/-- Values between brackets, with commas between them, are read as an array. -/
theorem reads_array {texts : List (List Char)} {values : List Json}
    (reads : List.Forall₂ Reads texts values)
    : Reads ('[' :: (texts.intersperse [',']).flatten ++ [']']) (.array values) := by
  intro stack
  cases reads with
  | nil => exact .cons rfl (.cons rfl rfl)
  | @cons text value texts values first others =>
      rw [flatten_intersperse_cons, List.cons_append, List.append_assoc]
      refine .cons rfl (Leads.append ?_ (leads_items others value [] stack))
      exact leads_firstItem (first _) (fun same => nomatch same)

-----------------------------------------------------------------------------------------
-- Members
-----------------------------------------------------------------------------------------

/-- A quoted name, a colon and a value are read as a member of the object that they stand in. -/
theorem exists_leads_member (name : List Char)
    : ∃ written,
        decode written = some name
        ∧ ∀ {text : List Char} {value : Json},
            Reads text value
            → ∀ waiting members stack,
                Reader.step? waiting '"' = some ⟨.string (.name members) [], stack⟩
                → Leads waiting (quote name ++ ':' :: text)
                    ⟨.after value, .object members written :: stack⟩ := by
  obtain ⟨written, decodes, leads⟩ := exists_leads_quote name
  refine ⟨written, decodes, fun reads waiting members stack opens => ?_⟩
  have named := leads (.name members) stack waiting opens
  rw [Mode.close, List.reverse_reverse] at named
  exact named.append (.cons rfl (reads _))

end Lifecycle.Json
