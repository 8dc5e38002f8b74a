import ContentFilter.Rule
import ContentFilter.IdSpace

/-!
# Declarative rules

The records that the browser's declarative interface accepts and returns.  A compiled rule is written
as such a record to be installed, and read back from one to be compared.
-/

namespace ContentFilter

/-- The condition of a declarative rule; every field may be missing. -/
structure DeclarativeCondition where
  regexFilter : Option String
  resourceTypes : Option (List String)
  initiatorDomains : Option (List String)
  excludedInitiatorDomains : Option (List String)
  party : Option Party
  isCaseSensitive : Option Bool
deriving DecidableEq, Repr

/-- A rule of the declarative interface. -/
structure DeclarativeRule where
  id : Nat
  priority : Nat
  action : RuleAction
  condition : DeclarativeCondition
deriving DecidableEq, Repr

/-- The record that installs a compiled rule. -/
def CompiledRule.toDeclarative (rule : CompiledRule) : DeclarativeRule where
  id := rule.id
  priority := rule.priority
  action := rule.action
  condition :=
    { regexFilter := some rule.matchPattern
      resourceTypes := rule.resourceTypes.map (·.names)
      initiatorDomains := rule.includes
      excludedInitiatorDomains := rule.excludes
      party := rule.party
      isCaseSensitive := some rule.caseSensitive }

/-- The compiled rule that a record stands for.  Its category is that of the band its id lies in;
records outside every band are filed under custom rules. -/
def DeclarativeRule.toCompiled (record : DeclarativeRule) (space : IdSpace) : CompiledRule where
  id := record.id
  priority := record.priority
  action := record.action
  matchPattern := record.condition.regexFilter.getD ""
  resourceTypes := record.condition.resourceTypes.map ResourceTypes.ofNames
  includes := record.condition.initiatorDomains
  excludes := record.condition.excludedInitiatorDomains
  party := record.condition.party
  caseSensitive := record.condition.isCaseSensitive.getD false
  category := (space.categoryOf? record.id).getD .custom

end ContentFilter
