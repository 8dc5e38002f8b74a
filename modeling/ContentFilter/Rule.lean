import ContentFilter.Category
import ContentFilter.ResourceType

/-!
# Compiled rules

A rule as it leaves the compiler and is handed to the backend: an id, a priority, an action, and the
conditions under which it matches a request.
-/

namespace ContentFilter

/-- What a rule does with the requests that it matches. -/
inductive RuleAction where
  | allow
  | block
deriving DecidableEq, Repr

/-- The name of an action. -/
def RuleAction.name : RuleAction → String
  | .allow => "allow"
  | .block => "block"

/-- The restriction of a rule to requests within a site or across sites. -/
inductive Party where
  | first
  | third
deriving DecidableEq, Repr

/-- The name of a restriction in rule records. -/
def Party.name : Party → String
  | .first => "firstParty"
  | .third => "thirdParty"

/-- A rule with its id and priority.  A missing condition restricts nothing. -/
structure CompiledRule where
  id : Nat
  /-- The higher one wins, and at equal priority an allowing rule. -/
  priority : Nat
  action : RuleAction
  /-- The regular expression searched for in the URL. -/
  matchPattern : String
  resourceTypes : Option ResourceTypes
  includes : Option (List String)
  excludes : Option (List String)
  party : Option Party
  caseSensitive : Bool
  category : Category
deriving DecidableEq, Repr

end ContentFilter
