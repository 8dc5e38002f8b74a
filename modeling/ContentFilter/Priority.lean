import ContentFilter.Filter

/-!
# Priority tiers

The backend lets the matching rule of the highest priority decide and an allowing rule win a tie.  So
every tier that is to override another one stands strictly above it.
-/

namespace ContentFilter

/-- The ranks of rules, lowest first. -/
inductive PriorityTier where
  | listBlock
  | listImportant
  | listException
  | blacklist
  | whitelist
  | customBlock
  | customAllow
deriving DecidableEq, Repr

namespace PriorityTier

/-- Every tier, lowest first. -/
def all : List PriorityTier :=
  [.listBlock, .listImportant, .listException, .blacklist, .whitelist, .customBlock, .customAllow]

/-- The name of a tier. -/
def name : PriorityTier → String
  | .listBlock => "ListBlock"
  | .listImportant => "ListImportant"
  | .listException => "ListException"
  | .blacklist => "Blacklist"
  | .whitelist => "Whitelist"
  | .customBlock => "CustomBlock"
  | .customAllow => "CustomAllow"

/-- The priority of the rules of a tier. -/
def priority : PriorityTier → Nat
  | .listBlock => 1
  | .listImportant => 2
  | .listException => 3
  | .blacklist => 4
  | .whitelist => 5
  | .customBlock => 6
  | .customAllow => 7

/-- What the rules of a tier do. -/
def action : PriorityTier → RuleAction
  | .listException | .whitelist | .customAllow => .allow
  | .listBlock | .listImportant | .blacklist | .customBlock => .block

/-- The tier of a filter from a list. -/
def ofListFilter (filter : NetworkFilter) : PriorityTier :=
  if filter.isException then .listException
  else if filter.important then .listImportant
  else .listBlock

/-- The tier of a user's rule in a category. -/
def ofUserRule (category : Category) (isException : Bool) : PriorityTier :=
  match category with
  | .whitelist => .whitelist
  | .blacklist => .blacklist
  | _ => if isException then .customAllow else .customBlock

end PriorityTier

end ContentFilter
