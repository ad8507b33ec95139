import Lifecycle.Config.Document
import Lifecycle.Proofs.Documents.Reading

/-! Configurations that are written and read back. Whatever is in the texts of a configuration, the
document that is written of it describes it and no other.
-/

namespace Lifecycle.Config

/-- Quoted texts are read as values from which the texts are got back. -/
theorem exists_reads_texts (texts : List String)
    : ∃ values,
        List.Forall₂ Json.Reads (texts.map (fun text => Json.quote text.toList)) values
        ∧ readTexts? (.array values) = some texts := by
  induction texts with
  | nil => exact ⟨[], .nil, rfl⟩
  | cons text rest ih =>
      obtain ⟨written, decodes, reads⟩ := Json.exists_reads_quote text.toList
      obtain ⟨values, others, got⟩ := ih
      refine ⟨.string written :: values, .cons reads others, ?_⟩
      have own : readText? (.string written) = some text := by
        rw [readText?, decodes, Option.map_some, String.ofList_toList]
      have later : values.mapM readText? = some rest := got
      simp [readTexts?, own, later]

/-- What is written of a configuration is a document that describes the configuration. -/
theorem read?_write (config : Config)
    : (Json.read? (write config).toList).bind ofValue? = some config := by
  obtain ⟨values, items, got⟩ := exists_reads_texts config.packages
  obtain ⟨flag, flagDecodes, flagMember⟩ := Json.exists_leads_member failOnErrorName.toList
  obtain ⟨list, listDecodes, listMember⟩ := Json.exists_leads_member packagesName.toList
  have opened
      : Json.Reader.Leads ⟨.value, []⟩
          ('\x7b' :: (Json.quote failOnErrorName.toList
            ++ ':' :: (if config.failOnError then "true" else "false").toList))
          ⟨.after (.bool config.failOnError), [.object [] flag]⟩ :=
    .cons rfl (flagMember (Json.reads_bool config.failOnError) _ [] [] rfl)
  have filled
      : Json.Reader.Leads ⟨.after (.bool config.failOnError), [.object [] flag]⟩
          (',' :: (Json.quote packagesName.toList
            ++ ':' :: ('[' :: writeTexts config.packages ++ [']'])))
          ⟨.after (.array values), [.object [(flag, .bool config.failOnError)] list]⟩ :=
    .cons rfl (listMember (Json.reads_array items) _ _ [] rfl)
  have parts
      : (write config).toList
        = ('\x7b' :: (Json.quote failOnErrorName.toList
            ++ ':' :: (if config.failOnError then "true" else "false").toList))
          ++ (',' :: (Json.quote packagesName.toList
            ++ ':' :: ('[' :: writeTexts config.packages ++ [']'])))
          ++ ['\x7d'] := by
    simp [write]
  have written
      : Json.read? (write config).toList
        = some (.object [(flag, .bool config.failOnError), (list, .array values)]) := by
    have closed
        : Json.Reader.Leads
            ⟨.after (.array values), [.object [(flag, .bool config.failOnError)] list]⟩ ['\x7d']
            ⟨.after (.object [(flag, .bool config.failOnError), (list, .array values)]), []⟩ :=
      rfl
    rw [Json.read?, parts, (opened.append filled).append closed]
    rfl
  rw [written, Option.bind_some, ofValue?]
  have flagAdded
      : Fields.add? ⟨none, none⟩ (flag, .bool config.failOnError)
        = some ⟨some config.failOnError, none⟩ := by
    simp [Fields.add?, flagDecodes, readBool?]
  have listAdded
      : Fields.add? ⟨some config.failOnError, none⟩ (list, .array values)
        = some ⟨some config.failOnError, some config.packages⟩ := by
    have other : packagesName.toList ≠ failOnErrorName.toList := by decide
    simp [Fields.add?, listDecodes, other, got]
  simp [flagAdded, listAdded, Fields.config]

/-- What is written of a configuration reads back as it, unless the configuration is refused; then it
is refused in the same words. So two configurations of which the same is written are the same, and
nothing of either is lost: not a character of a text, however it has to be escaped, nor a text of the
list, nor one of the two members.
-/
theorem write_reads_back (config : Config)
    : ((config.validate = .ok () ∧ read (write config) = .ok config)
        ∨ ∃ fault,
            config.validate = .error (.configuration fault)
            ∧ read (write config) = .error (.configuration fault))
      ∧ ∀ other, write other = write config → other = config := by
  have described := read?_write config
  constructor
  · rw [read, described]
    dsimp only
    unfold validate
    cases config.packages.findSome? packageFault? with
    | none => exact Or.inl ⟨rfl, rfl⟩
    | some fault => exact Or.inr ⟨fault, rfl, rfl⟩
  · intro other same
    have too := read?_write other
    rw [same, described] at too
    exact (Option.some.inj too).symm

end Lifecycle.Config
