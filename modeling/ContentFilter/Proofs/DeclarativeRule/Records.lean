import ContentFilter.DeclarativeRule.Record
import ContentFilter.Proofs.Json.Decoding
import ContentFilter.Proofs.ResourceType.Names

/-!
# Compiled rules as declarative records

A compiled rule is given back by its record, if its types have names and its id tells its category.  A
record of foreign origin need not be given back: unknown types are lost, and what is missing is filled
in.  But it is converted only once, for the record that it is rendered as stands for the same rule.

Records whose numbers fit their words are read back from JSON as they were, from either text.
-/

namespace ContentFilter

open FieldsDecoder Decoder

/-! ## Rules and records -/

namespace CompiledRule

@[simp] theorem id_toDeclarative (rule : CompiledRule) : rule.toDeclarative.id = rule.id := rfl

/-- A rule is given back by its record if its types have names and its id tells its category. -/
theorem toCompiled_toDeclarative {rule : CompiledRule} {space : IdSpace}
    (known : ∀ types, rule.resourceTypes = some types → types.Known)
    (told : space.categoryOf? rule.id = some rule.category) :
    rule.toDeclarative.toCompiled space = rule := by
  have types : (rule.resourceTypes.map (·.names)).map ResourceTypes.ofNames =
      rule.resourceTypes := by
    cases restricted : rule.resourceTypes with
    | none => rfl
    | some types => exact congrArg some (ResourceTypes.ofNames_names (known types restricted))
  have category : (space.categoryOf? rule.id).getD .custom = rule.category := by
    rw [told, Option.getD_some]
  unfold toDeclarative DeclarativeRule.toCompiled
  dsimp only
  rw [types, category, Option.getD_some, Option.getD_some]

end CompiledRule

namespace DeclarativeRule

@[simp] theorem id_toCompiled (record : DeclarativeRule) (space : IdSpace) :
    (record.toCompiled space).id = record.id := rfl

/-- What a record stands for, the record that it is rendered as stands for too. -/
theorem toCompiled_rendered (record : DeclarativeRule) (space : IdSpace) :
    (record.toCompiled space).toDeclarative.toCompiled space = record.toCompiled space := by
  have types : ((record.condition.resourceTypes.map ResourceTypes.ofNames).map (·.names)).map
      ResourceTypes.ofNames = record.condition.resourceTypes.map ResourceTypes.ofNames := by
    cases record.condition.resourceTypes with
    | none => rfl
    | some names => exact congrArg some (ResourceTypes.ofNames_names (ResourceTypes.known_ofTypes _))
  unfold CompiledRule.toDeclarative toCompiled
  dsimp only
  rw [types, Option.getD_some, Option.getD_some]

end DeclarativeRule

/-! ## Conditions as JSON -/

namespace DeclarativeCondition

variable {α : Type}

@[simp] theorem filter_presentField_self (name : String) (encode : α → Json) (value : Option α) :
    (presentField name encode value).filter (·.1 == name) = presentField name encode value := by
  cases value <;> simp [presentField]

@[simp] theorem filter_presentField_other {name other : String} (different : other ≠ name)
    (encode : α → Json) (value : Option α) :
    (presentField other encode value).filter (·.1 == name) = [] := by
  cases value <;> simp [presentField, different]

theorem all_presentField {p : String → Bool} {name : String} (holds : p name) (encode : α → Json)
    (value : Option α) : (presentField name encode value).all (fun field => p field.1) = true := by
  cases value <;> simp [presentField, holds]

theorem forall_mem_presentField {p : Json → Prop} {name : String} {encode : α → Json}
    {value : Option α} :
    (∀ field ∈ presentField name encode value, p field.2) ↔ ∀ a ∈ value, p (encode a) := by
  cases value <;> simp [presentField]

/-- A field that stands in a record unless it has no value is decoded as it was. -/
theorem omissible_ok {name : String} {decode : Decoder α} (encode : α → Json) {value : Option α}
    {source : FieldSource}
    (found : source.fields.filter (·.1 == name) = presentField name encode value)
    (nonnull : ∀ a, encode a ≠ .null) (back : ∀ a, value = some a → decode (encode a) = .ok a) :
    (omissible name decode).decode source = .ok value := by
  cases value with
  | none => exact field_absent found
  | some a => exact field_ok found (option_option nonnull back)

theorem strings_ne_null (values : List String) : Json.strings values ≠ .null := Json.noConfusion

theorem choice_party (party : Party) : choice Party.ofName? (.string party.name) = .ok party := by
  cases party <;> rfl

theorem decoder_toJson (condition : DeclarativeCondition) :
    fields.toDecoder condition.toJson = .ok condition := by
  refine toDecoder_ok ?_ ?_
  · unfold fields
    refine seq_ok (seq_ok (seq_ok (seq_ok (seq_ok (map_ok ?_) ?_) ?_) ?_) ?_) ?_
    · refine omissible_ok .string ?_ (fun _ => Json.noConfusion) fun _ _ => rfl
      simp
    · refine omissible_ok Json.strings ?_ strings_ne_null fun _ _ => strings_strings _
      simp
    · refine omissible_ok Json.strings ?_ strings_ne_null fun _ _ => strings_strings _
      simp
    · refine omissible_ok Json.strings ?_ strings_ne_null fun _ _ => strings_strings _
      simp
    · refine omissible_ok (.string ·.name) ?_ (fun _ => Json.noConfusion) fun _ _ => choice_party _
      simp
    · refine omissible_ok .bool ?_ (fun _ => Json.noConfusion) fun _ _ => rfl
      simp
  · simp only [List.all_append, Bool.and_eq_true]
    refine ⟨⟨⟨⟨⟨?_, ?_⟩, ?_⟩, ?_⟩, ?_⟩, ?_⟩
    all_goals exact all_presentField rfl _ _

theorem plain_toJson (condition : DeclarativeCondition) : condition.toJson.Plain := by
  simp only [toJson, Json.plain_record_iff, List.forall_mem_append, forall_mem_presentField]
  simp

end DeclarativeCondition

/-! ## Records as JSON -/

namespace DeclarativeRule

/-- Whether the numbers of a record fit their words. -/
structure Fits (record : DeclarativeRule) : Prop where
  id : record.id < UInt32.size
  priority : record.priority < UInt32.size

instance (record : DeclarativeRule) : Decidable record.Fits :=
  decidable_of_iff (record.id < UInt32.size ∧ record.priority < UInt32.size)
    ⟨fun fits => ⟨fits.1, fits.2⟩, fun fits => ⟨fits.id, fits.priority⟩⟩

theorem decoder_action (action : RuleAction) :
    actionField.toDecoder (.record [("type", .string action.name)]) = .ok action := by
  cases action <;> rfl

theorem decoder_toJson {record : DeclarativeRule} (fits : record.Fits) :
    decoder record.toJson = .ok record := by
  refine toDecoder_ok ?_ rfl
  unfold fields
  refine seq_ok (seq_ok (seq_ok (map_ok ?_) ?_) ?_) ?_
  · exact field_ok rfl (natural32_nat fits.id)
  · exact field_ok rfl (natural32_nat fits.priority)
  · exact field_ok rfl (decoder_action _)
  · exact field_ok rfl (DeclarativeCondition.decoder_toJson _)

theorem plain_toJson (record : DeclarativeRule) : record.toJson.Plain := by
  simp [toJson, DeclarativeCondition.plain_toJson]

/-- The numbers of a record that was decoded fit their words. -/
theorem fits_of_decoder {json : Json} {record : DeclarativeRule}
    (decoded : decoder json = .ok record) : record.Fits := by
  obtain ⟨source, whole⟩ := toDecoder_eq_ok decoded
  obtain ⟨withCondition, condition, upToAction, -, rfl⟩ := seq_eq_ok whole
  obtain ⟨withAction, action, upToPriority, -, rfl⟩ := seq_eq_ok upToAction
  obtain ⟨withPriority, priority, upToId, second, rfl⟩ := seq_eq_ok upToPriority
  obtain ⟨id, first, rfl⟩ := map_eq_ok upToId
  obtain ⟨idJson, idRead⟩ := required_eq_ok first
  obtain ⟨priorityJson, priorityRead⟩ := required_eq_ok second
  exact ⟨natural32_eq_ok idRead, natural32_eq_ok priorityRead⟩

theorem list_decoder_map {records : List DeclarativeRule} (fit : ∀ record ∈ records, record.Fits) :
    list decoder (.list (records.map toJson)) = .ok records :=
  list_map fun record member => decoder_toJson (fit record member)

theorem fits_of_run {text : String} {records : List DeclarativeRule}
    (read : (list decoder).run text = .ok records) : ∀ record ∈ records, record.Fits := by
  intro record member
  obtain ⟨json, whole⟩ := run_eq_ok read
  obtain ⟨item, decoded⟩ := list_eq_ok whole record member
  exact fits_of_decoder decoded

/-- The texts of an array of records, the indented and the compact one. -/
def texts (records : List DeclarativeRule) : List String :=
  [(Json.list (records.map toJson)).pretty, (Json.list (records.map toJson)).compress]

/-- Both texts read back as the records. -/
theorem run_of_mem_texts {records : List DeclarativeRule} (fit : ∀ record ∈ records, record.Fits)
    {text : String} (member : text ∈ texts records) : (list decoder).run text = .ok records := by
  have plain : (Json.list (records.map toJson)).Plain := .map plain_toJson
  rcases List.mem_cons.1 member with rfl | compact
  · exact run_of_read plain.read_pretty (list_decoder_map fit)
  · rw [List.mem_singleton.1 compact]
    exact run_of_read plain.read_compress (list_decoder_map fit)

end DeclarativeRule

end ContentFilter
