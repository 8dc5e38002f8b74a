import ContentFilter.DeclarativeRule
import ContentFilter.Rule.Record

/-!
# Declarative rules as records

How declarative rules are written as JSON and read back.  Conditions that are missing are left out.
-/

namespace ContentFilter

namespace DeclarativeCondition

/-- A field of a record, unless there is no value. -/
def presentField {α : Type} (name : String) (encode : α → Json) (value : Option α) :
    List (String × Json) :=
  value.toList.map fun value => (name, encode value)

/-- The record of a condition. -/
def toJson (condition : DeclarativeCondition) : Json :=
  .record (
    presentField "regexFilter" .string condition.regexFilter ++
    presentField "resourceTypes" Json.strings condition.resourceTypes ++
    presentField "initiatorDomains" Json.strings condition.initiatorDomains ++
    presentField "excludedInitiatorDomains" Json.strings condition.excludedInitiatorDomains ++
    presentField "domainType" (.string ·.name) condition.party ++
    presentField "isUrlFilterCaseSensitive" .bool condition.isCaseSensitive)

/-- The fields of the record of a condition. -/
def fields : FieldsDecoder DeclarativeCondition :=
  DeclarativeCondition.mk <$> .omissible "regexFilter" .string
    <*> .omissible "resourceTypes" .strings
    <*> .omissible "initiatorDomains" .strings
    <*> .omissible "excludedInitiatorDomains" .strings
    <*> .omissible "domainType" (.choice Party.ofName?)
    <*> .omissible "isUrlFilterCaseSensitive" .bool

end DeclarativeCondition

namespace DeclarativeRule

/-- The record of a declarative rule. -/
def toJson (rule : DeclarativeRule) : Json :=
  .record [
    ("id", .nat rule.id),
    ("priority", .nat rule.priority),
    ("action", .record [("type", .string rule.action.name)]),
    ("condition", rule.condition.toJson)]

/-- The field of the record of an action. -/
def actionField : FieldsDecoder RuleAction := .required "type" (.choice RuleAction.ofName?)

/-- The fields of the record of a declarative rule. -/
def fields : FieldsDecoder DeclarativeRule :=
  DeclarativeRule.mk <$> .required "id" .natural32 <*> .required "priority" .natural32
    <*> .required "action" actionField.toDecoder
    <*> .required "condition" DeclarativeCondition.fields.toDecoder

/-- A declarative rule is read from its record. -/
def decoder : Decoder DeclarativeRule := fields.toDecoder

end DeclarativeRule

end ContentFilter
