import Lifecycle.Proofs.Documents.Grammar

/-! Every document is read. A part of a document leads the reader on to where the part has been read,
whatever containers it stands in. Only the end of a number is not seen until something else comes, so
what counts is how the reader goes on.
-/

namespace Lifecycle.Json

open Reader (Leads)

-----------------------------------------------------------------------------------------
-- Values that have been read
-----------------------------------------------------------------------------------------

/-- A value has been read, though if it is a number it may turn out to have more digits. -/
inductive Reader.Settled (stack : List Frame) : Json → Reader → Prop where
  | after (value : Json) : Settled stack value ⟨.after value, stack⟩
  | number {part : NumberPart} (seen : List Char) (complete : part.isComplete = true)
    : Settled stack (.number seen.reverse) ⟨.number part seen, stack⟩

namespace Reader.Settled

variable {stack : List Frame} {value : Json} {reader reached : Reader}

/-- The characters that may follow a value, and are no part of a number. -/
def marks : List Char := [' ', '\n', '\t', '\r', ',', ']', '\x7d']

/-- A value that has been read is followed as if there was nothing to come of it. -/
theorem step?_eq (settled : reader.Settled stack value) {c : Char} (mark : c ∈ marks)
    : reader.step? c = Reader.follow? value stack c := by
  cases settled with
  | after => rfl
  | @number part seen complete =>
      have ends : ∀ part : NumberPart, ∀ c ∈ marks, part.next? c = none := by
        intro part
        cases part <;> simp [marks, NumberPart.next?]
      simp [Reader.step?, ends part c mark, complete]

/-- What leads on from the value itself leads on from wherever it has been read. -/
theorem leads (settled : reader.Settled stack value) {c : Char} {text : List Char}
    (mark : c ∈ marks) (leads : Leads ⟨.after value, stack⟩ (c :: text) reached)
    : reader.Leads (c :: text) reached := by
  rw [Leads, Reader.run?] at leads ⊢
  rw [settled.step?_eq mark]
  exact leads

/-- White space after a value leaves it read. -/
theorem gap (settled : reader.Settled stack value) {text : List Char} (gap : Gap text)
    : ∃ later, reader.Leads text later ∧ later.Settled stack value := by
  cases text with
  | nil => exact ⟨reader, rfl, settled⟩
  | cons c rest =>
      have waits (c : Char) (space : isSpace c = true)
          : Reader.step? ⟨.after value, stack⟩ c = some ⟨.after value, stack⟩ := by
        simp [Reader.step?, Reader.follow?, space]
      have mark : c ∈ marks := by
        have blank := gap c List.mem_cons_self
        simp only [List.mem_cons, List.not_mem_nil, or_false] at blank
        rcases blank with rfl | rfl | rfl | rfl <;> decide
      exact ⟨_, settled.leads mark (gap.leads waits), .after value⟩

theorem finish? (settled : reader.Settled [] value) : reader.finish? = some value := by
  cases settled with
  | after => rfl
  | number seen complete => simp [Reader.finish?, complete]

end Reader.Settled

-----------------------------------------------------------------------------------------
-- Parts of documents
-----------------------------------------------------------------------------------------

/-- The text is read as the part of a document that it is written for. Items and members are read to
the end of the container that they stand in.
-/
def IsRead (text : List Char) : Part → Prop
  | .value value | .padded value =>
      ∀ stack, ∃ reached, Leads ⟨.value, stack⟩ text reached ∧ reached.Settled stack value
  | .items values =>
      ∀ items stack,
        Leads ⟨.value, .array items :: stack⟩ (text ++ [']'])
          ⟨.after (.array (items.reverse ++ values)), stack⟩
  | .member name value =>
      ∀ members stack, ∃ reached,
        Leads ⟨.member members, stack⟩ text reached
        ∧ reached.Settled (.object members name :: stack) value
  | .members members =>
      ∀ earlier stack,
        Leads ⟨.member earlier, stack⟩ (text ++ ['\x7d'])
          ⟨.after (.object (earlier.reverse ++ members)), stack⟩

/-- What begins a member begins the first member of an object too, by induction on the spaces before
it.
-/
theorem leads_firstMember {stack : List Frame} {text : List Char} {reached : Reader}
    (leads : Leads ⟨.member [], stack⟩ text reached) (begun : reached.mode ≠ .member [])
    : Leads ⟨.firstMember, stack⟩ text reached := by
  induction text with
  | nil =>
      cases leads
      exact absurd rfl begun
  | cons c rest ih =>
      by_cases space : isSpace c = true
      · simp only [Leads, Reader.run?, Reader.step?, space, if_true] at leads ⊢
        exact ih leads
      · by_cases closes : c = '\x7d'
        · subst closes
          cases leads
        · simpa [Leads, Reader.run?, Reader.step?, space, closes] using leads

/-- Every part of a document is read as what it is written for, by induction on how it is written. -/
theorem Writes.isRead {text : List Char} {part : Part} (writes : Writes text part)
    : IsRead text part := by
  induction writes with
  | null => exact fun stack => ⟨_, rfl, .after _⟩
  | true => exact fun stack => ⟨_, rfl, .after _⟩
  | false => exact fun stack => ⟨_, rfl, .after _⟩
  | @number text number =>
      intro stack
      obtain ⟨part, complete, leads⟩ := number.leads stack
      have settled
          : Reader.Settled stack (.number text.reverse.reverse)
              ⟨.number part text.reverse, stack⟩ :=
        .number text.reverse complete
      rw [List.reverse_reverse] at settled
      exact ⟨_, leads, settled⟩
  | @string text pieces quotes =>
      intro stack
      have closed : Leads ⟨.value, stack⟩ text ⟨.close .value pieces.reverse, stack⟩ :=
        quotes.leads rfl
      rw [Mode.close, List.reverse_reverse] at closed
      exact ⟨_, closed, .after _⟩
  | @emptyArray blank gap =>
      intro stack
      have waits : Leads ⟨.firstItem, stack⟩ blank ⟨.firstItem, stack⟩ :=
        gap.leads (fun c space => by simp [Reader.step?, space])
      exact ⟨_, .cons rfl (waits.append (.cons rfl rfl)), .after _⟩
  | array items ih =>
      intro stack
      exact ⟨_, .cons rfl (leads_firstItem (ih [] stack) (by simp)), .after _⟩
  | @emptyObject blank gap =>
      intro stack
      have waits : Leads ⟨.firstMember, stack⟩ blank ⟨.firstMember, stack⟩ :=
        gap.leads (fun c space => by simp [Reader.step?, space])
      exact ⟨_, .cons rfl (waits.append (.cons rfl rfl)), .after _⟩
  | object inside ih =>
      intro stack
      exact ⟨_, .cons rfl (leads_firstMember (ih [] stack) (by simp)), .after _⟩
  | @padded before _ _ _ gap inner gap' ih =>
      intro stack
      have waits : Leads ⟨.value, stack⟩ before ⟨.value, stack⟩ :=
        gap.leads (fun c space => by simp [Reader.step?, Reader.begin?, space])
      obtain ⟨reached, leads, settled⟩ := ih stack
      obtain ⟨later, passes, settled'⟩ := settled.gap gap'
      exact ⟨later, waits.append (leads.append passes), settled'⟩
  | lastItem item ih =>
      intro items stack
      obtain ⟨reached, leads, settled⟩ := ih (.array items :: stack)
      refine leads.append (settled.leads (by decide) (.cons rfl ?_))
      simp [Leads, Reader.run?]
  | @nextItem _ _ value _ item later ih ih' =>
      intro items stack
      obtain ⟨reached, leads, settled⟩ := ih (.array items :: stack)
      have follows := ih' (value :: items) stack
      rw [List.reverse_cons, List.append_assoc] at follows
      rw [List.append_assoc]
      exact leads.append (settled.leads (by decide) (.cons rfl follows))
  | @member before quoted after _ name _ gap quotes gap' item ih =>
      intro members stack
      have waits : Leads ⟨.member members, stack⟩ before ⟨.member members, stack⟩ :=
        gap.leads (fun c space => by simp [Reader.step?, space])
      have named
          : Leads ⟨.member members, stack⟩ quoted ⟨.close (.name members) name.reverse, stack⟩ :=
        quotes.leads rfl
      rw [Mode.close, List.reverse_reverse] at named
      have waits' : Leads ⟨.colon members name, stack⟩ after ⟨.colon members name, stack⟩ :=
        gap'.leads (fun c space => by simp [Reader.step?, space])
      obtain ⟨reached, leads, settled⟩ := ih (.object members name :: stack)
      exact ⟨reached, waits.append (named.append (waits'.append (.cons rfl leads))), settled⟩
  | lastMember member ih =>
      intro earlier stack
      obtain ⟨reached, leads, settled⟩ := ih earlier stack
      refine leads.append (settled.leads (by decide) (.cons rfl ?_))
      simp [Leads, Reader.run?]
  | @nextMember _ _ name value _ member later ih ih' =>
      intro earlier stack
      obtain ⟨reached, leads, settled⟩ := ih earlier stack
      have follows := ih' ((name, value) :: earlier) stack
      rw [List.reverse_cons, List.append_assoc] at follows
      rw [List.append_assoc]
      exact leads.append (settled.leads (by decide) (.cons rfl follows))

/-- A document is read as the value that it is written for. -/
theorem Document.read?_eq {text : List Char} {value : Json} (document : Document text value)
    : read? text = some value := by
  obtain ⟨reached, leads, settled⟩ := document.isRead []
  rw [read?, leads, Option.bind_some, settled.finish?]

end Lifecycle.Json
