import ContentFilter.Filter.Record
import ContentFilter.FilterList

/-!
# Filter lists and custom rules as records

How filter lists, their filters and a user's rules are written as JSON and read back.
-/

namespace ContentFilter

namespace FilterList

/-- The record of what is known about a list. -/
def toJson (list : FilterList) : Json :=
  .record [
    ("id", .string list.id),
    ("displayName", .string list.displayName),
    ("sourceURI", .string list.sourceUri),
    ("category", .string list.category.name),
    ("enabled", .bool list.enabled),
    ("format", .string list.format.name),
    ("rawRuleCount", .nat list.rawRuleCount),
    ("lastFetchedAt", .option Json.nat list.lastFetchedAt)]

/-- The fields of the record of a list. -/
def fields : FieldsDecoder FilterList :=
  FilterList.mk <$> .required "id" .string
    <*> .required "displayName" .string
    <*> .required "sourceURI" .string
    <*> .required "category" (.choice Category.ofName?)
    <*> .required "enabled" .bool
    <*> .defaulted "format" (.choice ListFormat.ofName?) .adblock
    <*> .defaulted "rawRuleCount" .natural64 0
    <*> .omissible "lastFetchedAt" .natural64

/-- A list is read from its record. -/
def decoder : Decoder FilterList := fields.toDecoder

end FilterList

namespace CachedList

/-- The record of a list with its filters. -/
def toJson (cached : CachedList) : Json :=
  .record [
    ("meta", cached.list.toJson),
    ("rules", .list (cached.filters.map Filter.toJson)),
    ("stale", .bool cached.stale),
    ("skipped", .nat cached.skipped)]

/-- The fields of the record of a list with its filters. -/
def fields : FieldsDecoder CachedList :=
  CachedList.mk <$> .required "meta" FilterList.decoder
    <*> .required "rules" (.list Filter.decoder)
    <*> .defaulted "stale" .bool false
    <*> .defaulted "skipped" .natural64 0

/-- A list with its filters is read from its record. -/
def decoder : Decoder CachedList := fields.toDecoder

end CachedList

namespace CustomRule

/-- The record of a custom rule. -/
def toJson (rule : CustomRule) : Json :=
  .record [
    ("id", .nat rule.id),
    ("pattern", .string rule.pattern),
    ("type", .string rule.action.name),
    ("createdAt", .nat rule.createdAt)]

/-- The fields of the record of a custom rule. -/
def fields : FieldsDecoder CustomRule :=
  CustomRule.mk <$> .required "id" .natural64
    <*> .required "pattern" .string
    <*> .required "type" (.choice RuleAction.ofName?)
    <*> .required "createdAt" .natural64

/-- A custom rule is read from its record. -/
def decoder : Decoder CustomRule := fields.toDecoder

end CustomRule

end ContentFilter
