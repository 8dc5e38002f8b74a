import ContentFilter.Json.Decoder
import ContentFilter.ResourceType.Mask
import ContentFilter.Rule

/-!
# Compiled rules as records

How compiled rules are written as JSON and read back.
-/

namespace ContentFilter

/-- The action of exactly this name. -/
def RuleAction.ofName? : String → Option RuleAction
  | "allow" => some .allow
  | "block" => some .block
  | _ => none

/-- The restriction of exactly this name. -/
def Party.ofName? : String → Option Party
  | "firstParty" => some .first
  | "thirdParty" => some .third
  | _ => none

namespace ResourceTypes

/-- A mask is written as its text. -/
def toJson (types : ResourceTypes) : Json := .string types.text

/-- A mask is read from its text. -/
def decoder : Decoder ResourceTypes
  | .string text => (ofText text).mapError fun fault => .invalidFlags fault.message
  | json => .error (Decoder.mismatch "a string value of \x60|\x60 separated flags" json)

end ResourceTypes

/-- Domains are written as strings. -/
def Decoder.strings : Decoder (List String) := Decoder.list Decoder.string

namespace CompiledRule

/-- The record of a compiled rule. -/
def toJson (rule : CompiledRule) : Json :=
  .record [
    ("id", .nat rule.id),
    ("priority", .nat rule.priority),
    ("action", .string rule.action.name),
    ("matchPattern", .string rule.matchPattern),
    ("resourceTypes", .option ResourceTypes.toJson rule.resourceTypes),
    ("initiatorDomainIncludes", .option Json.strings rule.includes),
    ("initiatorDomainExcludes", .option Json.strings rule.excludes),
    ("domainType", .option (.string ·.name) rule.party),
    ("caseSensitive", .bool rule.caseSensitive),
    ("sourceCategory", .string rule.category.name)]

/-- The fields of the record of a compiled rule. -/
def fields : FieldsDecoder CompiledRule :=
  CompiledRule.mk <$> .required "id" .natural32 <*> .required "priority" .natural32
    <*> .required "action" (.choice RuleAction.ofName?)
    <*> .required "matchPattern" .string
    <*> .optional "resourceTypes" ResourceTypes.decoder
    <*> .optional "initiatorDomainIncludes" .strings
    <*> .optional "initiatorDomainExcludes" .strings
    <*> .optional "domainType" (.choice Party.ofName?)
    <*> .defaulted "caseSensitive" .bool false
    <*> .required "sourceCategory" (.choice Category.ofName?)

/-- A compiled rule is read from its record. -/
def decoder : Decoder CompiledRule := fields.toDecoder

end CompiledRule

end ContentFilter
