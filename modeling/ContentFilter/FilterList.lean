import ContentFilter.Filter.Line

/-!
# Filter lists and custom rules

A subscribed list with what is known about it, the filters of its last fetch, and the rules a user has
written.
-/

namespace ContentFilter

/-- What is known about a filter list. -/
structure FilterList where
  id : String
  displayName : String
  sourceUri : String
  category : Category
  enabled : Bool
  format : ListFormat
  /-- How many lines the last fetch had. -/
  rawRuleCount : Nat
  /-- When the last fetch was, in milliseconds. -/
  lastFetchedAt : Option Nat
deriving DecidableEq, Repr

/-- A list of the ad-filter format that has never been fetched. -/
def FilterList.new (id sourceUri : String) (category : Category) : FilterList where
  id := id
  displayName := id
  sourceUri := sourceUri
  category := category
  enabled := true
  format := .adblock
  rawRuleCount := 0
  lastFetchedAt := none

/-- A list with the filters of its last fetch that succeeded. -/
structure CachedList where
  list : FilterList
  filters : List Filter
  /-- A later fetch has failed, so the filters may be out of date. -/
  stale : Bool
  /-- How many lines were skipped. -/
  skipped : Nat
deriving DecidableEq, Repr

/-- The reading of a list whose text was fetched at the given time. -/
def CachedList.ofText (list : FilterList) (text : String) (fetchedAt : Nat) : CachedList :=
  let parsed := ParsedList.ofText list.format text
  { list := { list with rawRuleCount := parsed.lines, lastFetchedAt := some fetchedAt }
    filters := parsed.filters
    stale := false
    skipped := parsed.skipped }

/-- A rule that a user has written.  Its action is chosen apart from its text. -/
structure CustomRule where
  id : Nat
  pattern : String
  action : RuleAction
  createdAt : Nat
deriving DecidableEq, Repr

namespace CustomRule

/-- The domain that a text consists of.  Only names with a dot inside count as domains here. -/
def bareDomain? (text : List Char) : Option String :=
  if !text.contains '.' || text.head? == some '.' then none
  else Domain.normalize? (String.ofList text)

/-- The text of a rule without white space around it and without the mark of an exception. -/
def ruleText (pattern : String) : List Char :=
  let text := Text.trim pattern.toList
  Text.trim ((Text.stripStart? ['@', '@'] text).getD text)

/-- The network filter that a rule stands for.  A bare domain covers its subdomains; other text is read
as a filter, whose action is replaced by the rule's. -/
def toFilter? (rule : CustomRule) : Option NetworkFilter :=
  let text := ruleText rule.pattern
  let source := match bareDomain? text with
    | some domain => "||" ++ domain ++ "^"
    | none => String.ofList text
  (Filter.network? source).map fun filter =>
    { filter with isException := rule.action == .allow, sourceLine := rule.pattern }

end CustomRule

end ContentFilter
