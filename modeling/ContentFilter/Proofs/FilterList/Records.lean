import ContentFilter.FilterList.Record
import ContentFilter.Proofs.Json.Decoding
import ContentFilter.Proofs.Json.Reading
import ContentFilter.Proofs.ResourceType.Text

/-!
# Records of filters and lists

Filters, lists and custom rules are read back from their records as they were, and their records are
whole.  Of the counts and times it has to be known that they fit 64 bits.
-/

namespace ContentFilter

open FieldsDecoder Decoder

/-! ## Filters -/

namespace ResourceTypes

theorem toJson_ne_null (types : ResourceTypes) : types.toJson ≠ .null := Json.noConfusion

theorem decoder_toJson (types : ResourceTypes) : decoder types.toJson = .ok types := by
  rw [toJson, decoder, ofText_text]
  rfl

end ResourceTypes

namespace NetworkFilter

theorem decoder_toFields (filter : NetworkFilter) :
    decoder (.record filter.toFields) = .ok filter := by
  have decoded : fields.decode ⟨filter.toFields, false⟩ =
      .ok (fields.make filter.pattern filter.isException filter.scope.includes filter.scope.excludes
        filter.resourceTypes (filter.party.map Party.isThird) filter.important filter.matchCase
        filter.badfilter filter.sourceLine) := by
    have party : Decoder.option Decoder.bool (.option (.bool ·.isThird) filter.party) =
        .ok (filter.party.map Party.isThird) := by
      cases filter.party <;> rfl
    unfold fields
    refine seq_ok (seq_ok (seq_ok (seq_ok (seq_ok (seq_ok (seq_ok (seq_ok (seq_ok (map_ok ?_) ?_) ?_)
      ?_) ?_) ?_) ?_) ?_) ?_) ?_
    · exact field_ok rfl rfl
    · exact field_ok rfl rfl
    · exact field_ok rfl (strings_strings _)
    · exact field_ok rfl (strings_strings _)
    · exact field_ok rfl
        (option_option ResourceTypes.toJson_ne_null fun _ _ => ResourceTypes.decoder_toJson _)
    · exact field_ok rfl party
    · exact field_ok rfl rfl
    · exact field_ok rfl rfl
    · exact field_ok rfl rfl
    · exact field_ok rfl rfl
  have same : fields.make filter.pattern filter.isException filter.scope.includes
      filter.scope.excludes filter.resourceTypes (filter.party.map Party.isThird) filter.important
      filter.matchCase filter.badfilter filter.sourceLine = filter := by
    obtain ⟨_, _, _, _, party, _, _, _, _⟩ := filter
    rcases party with _ | _ | _ <;> rfl
  rw [same] at decoded
  exact toDecoder_ok decoded rfl

end NetworkFilter

namespace ElementHideFilter

theorem decoder_toFields (filter : ElementHideFilter) :
    decoder (.record filter.toFields) = .ok filter := by
  refine toDecoder_ok ?_ rfl
  unfold fields
  refine seq_ok (seq_ok (seq_ok (map_ok ?_) ?_) ?_) ?_
  · exact field_ok rfl rfl
  · exact field_ok rfl (strings_strings _)
  · exact field_ok rfl (strings_strings _)
  · exact field_ok rfl rfl

end ElementHideFilter

namespace ScriptletFilter

theorem decoder_toFields (filter : ScriptletFilter) :
    decoder (.record filter.toFields) = .ok filter := by
  refine toDecoder_ok ?_ rfl
  unfold fields
  refine seq_ok (seq_ok (seq_ok (map_ok ?_) ?_) ?_) ?_
  · exact field_ok rfl rfl
  · exact field_ok rfl (strings_strings _)
  · exact field_ok rfl (strings_strings _)
  · exact field_ok rfl rfl

end ScriptletFilter

namespace Filter

/-- Whether a field may stand beside the kind of a filter. -/
def isBody (field : String × Json) : Bool :=
  !(field.1 == kindField) && field.2.isStrict maxFieldDepth

/-- Behind the kind all fields are those of the filter. -/
theorem splitKind_body (kind : FilterKind) {fields : List (String × Json)}
    (body : fields.all isBody) (others : List (String × Json)) :
    splitKind (some kind) others fields = .ok (some kind, others.reverse ++ fields) := by
  induction fields generalizing others with
  | nil => rw [splitKind, List.append_nil]
  | cons field rest ih =>
    obtain ⟨name, value⟩ := field
    rw [List.all_cons, Bool.and_eq_true] at body
    obtain ⟨own, later⟩ := body
    simp only [isBody, Bool.and_eq_true, Bool.not_eq_true'] at own
    rw [splitKind, own.1, own.2, ih later, List.reverse_cons, List.append_assoc]
    rfl

theorem decoder_record (kind : FilterKind) {fields : List (String × Json)} (body : fields.all isBody)
    {filter : Filter} (back : kind.bodyDecoder (.record fields) = .ok filter) :
    decoder (toJson.record kind fields) = .ok filter := by
  have named : FilterKind.decoder (.string kind.name) = .ok kind := by cases kind <;> rfl
  have split : splitKind none [] ((kindField, .string kind.name) :: fields) =
      .ok (some kind, fields) := by
    rw [splitKind, beq_self_eq_true, named]
    exact splitKind_body kind body []
  rw [toJson.record, Json.record, decoder, split]
  show (kind.bodyDecoder (.record fields)).mapError _ = _
  rw [back]
  rfl

/-- Strings may stand in an array wherever one may nest. -/
theorem isStrict_strings (values : List String) : (Json.strings values).isStrict maxFieldDepth := by
  have items : ∀ room, Json.allStrict room (values.map .string) := by
    intro room
    induction values with
    | nil => rfl
    | cons head rest ih => exact ih
  exact items _

theorem isBody_networkFields (filter : NetworkFilter) : filter.toFields.all isBody := by
  have types : (Json.option ResourceTypes.toJson filter.resourceTypes).isStrict maxFieldDepth := by
    cases filter.resourceTypes <;> rfl
  have party : (Json.option (.bool ·.isThird) filter.party).isStrict maxFieldDepth := by
    cases filter.party <;> rfl
  simp [NetworkFilter.toFields, isBody, kindField, isStrict_strings, types, party, Json.isStrict]

theorem isBody_elementHideFields (filter : ElementHideFilter) : filter.toFields.all isBody := by
  simp [ElementHideFilter.toFields, isBody, kindField, isStrict_strings, Json.isStrict]

theorem isBody_scriptletFields (filter : ScriptletFilter) : filter.toFields.all isBody := by
  simp [ScriptletFilter.toFields, isBody, kindField, isStrict_strings, Json.isStrict]

theorem decoder_toJson (filter : Filter) : decoder filter.toJson = .ok filter := by
  cases filter with
  | network filter =>
    refine decoder_record .network (isBody_networkFields filter) ?_
    show (NetworkFilter.decoder (.record filter.toFields)).map Filter.network = _
    rw [NetworkFilter.decoder_toFields]
    rfl
  | elementHide filter =>
    refine decoder_record .elementHide (isBody_elementHideFields filter) ?_
    show (ElementHideFilter.decoder (.record filter.toFields)).map Filter.elementHide = _
    rw [ElementHideFilter.decoder_toFields]
    rfl
  | scriptlet filter =>
    refine decoder_record .scriptlet (isBody_scriptletFields filter) ?_
    show (ScriptletFilter.decoder (.record filter.toFields)).map Filter.scriptlet = _
    rw [ScriptletFilter.decoder_toFields]
    rfl

theorem plain_toJson (filter : Filter) : filter.toJson.Plain := by
  cases filter with
  | network filter =>
    have types : (Json.option ResourceTypes.toJson filter.resourceTypes).Plain :=
      .option (fun _ => .string _) _
    have party : (Json.option (.bool ·.isThird) filter.party).Plain := .option (fun _ => .bool _) _
    simp [toJson, toJson.record, NetworkFilter.toFields, types, party]
  | elementHide filter => simp [toJson, toJson.record, ElementHideFilter.toFields]
  | scriptlet filter => simp [toJson, toJson.record, ScriptletFilter.toFields]

end Filter

/-! ## Lists -/

namespace FilterList

/-- The numbers of a list that fit 64 bits. -/
structure Fits (list : FilterList) : Prop where
  rawRuleCount : list.rawRuleCount < UInt64.size
  lastFetchedAt : ∀ time, list.lastFetchedAt = some time → time < UInt64.size

theorem decoder_toJson {list : FilterList} (fits : list.Fits) : decoder list.toJson = .ok list := by
  have category : Category.ofName? list.category.name = some list.category :=
    Category.ofName?_name _
  have format : ListFormat.ofName? list.format.name = some list.format := by
    cases list.format <;> rfl
  refine toDecoder_ok ?_ rfl
  unfold fields
  refine seq_ok (seq_ok (seq_ok (seq_ok (seq_ok (seq_ok (seq_ok (map_ok ?_) ?_) ?_) ?_) ?_) ?_) ?_) ?_
  · exact field_ok rfl rfl
  · exact field_ok rfl rfl
  · exact field_ok rfl rfl
  · exact field_ok rfl (choice_string category)
  · exact field_ok rfl rfl
  · exact field_ok rfl (choice_string format)
  · exact field_ok rfl (natural64_nat fits.rawRuleCount)
  · exact field_ok rfl (option_option (fun _ => Json.noConfusion) fun time some =>
      natural64_nat (fits.lastFetchedAt time some))

theorem plain_toJson (list : FilterList) : list.toJson.Plain := by
  have time : (Json.option Json.nat list.lastFetchedAt).Plain := .option .nat _
  simp [toJson, time]

end FilterList

namespace CachedList

/-- The numbers of a list with its filters that fit 64 bits. -/
structure Fits (cached : CachedList) : Prop where
  list : cached.list.Fits
  skipped : cached.skipped < UInt64.size

theorem decoder_toJson {cached : CachedList} (fits : cached.Fits) :
    decoder cached.toJson = .ok cached := by
  refine toDecoder_ok ?_ rfl
  unfold fields
  refine seq_ok (seq_ok (seq_ok (map_ok ?_) ?_) ?_) ?_
  · exact field_ok rfl (FilterList.decoder_toJson fits.list)
  · exact field_ok rfl (list_map fun filter _ => Filter.decoder_toJson filter)
  · exact field_ok rfl rfl
  · exact field_ok rfl (natural64_nat fits.skipped)

theorem plain_toJson (cached : CachedList) : cached.toJson.Plain := by
  have filters : (Json.list (cached.filters.map Filter.toJson)).Plain := .map Filter.plain_toJson
  simp [toJson, cached.list.plain_toJson, filters]

end CachedList

/-! ## Custom rules -/

namespace CustomRule

/-- The numbers of a custom rule that fit 64 bits. -/
structure Fits (rule : CustomRule) : Prop where
  id : rule.id < UInt64.size
  createdAt : rule.createdAt < UInt64.size

theorem decoder_toJson {rule : CustomRule} (fits : rule.Fits) : decoder rule.toJson = .ok rule := by
  have action : RuleAction.ofName? rule.action.name = some rule.action := by
    cases rule.action <;> rfl
  refine toDecoder_ok ?_ rfl
  unfold fields
  refine seq_ok (seq_ok (seq_ok (map_ok ?_) ?_) ?_) ?_
  · exact field_ok rfl (natural64_nat fits.id)
  · exact field_ok rfl rfl
  · exact field_ok rfl (choice_string action)
  · exact field_ok rfl (natural64_nat fits.createdAt)

theorem plain_toJson (rule : CustomRule) : rule.toJson.Plain := by
  simp [toJson]

end CustomRule

end ContentFilter
