import ContentFilter.Rule
import ContentFilter.Url
import ContentFilter.FilterPattern
import ContentFilter.Regex.Search

/-!
# Matching requests

The decision that a batch of compiled rules comes to for a request: of the rules that match, the one
of the highest priority decides, and among those an allowing rule wins.
-/

namespace ContentFilter

/-- A request and the page that makes it. -/
structure Request where
  url : String
  types : ResourceTypes
  /-- An origin or a host name; top-level navigations have none. -/
  initiator : Option String
deriving Repr

/-- What becomes of a request. -/
structure Verdict where
  decision : RuleAction
  /-- The rule that decided, unless none matched. -/
  ruleId : Option Nat
  priority : Nat
deriving DecidableEq, Repr

/-- The verdict on a request that no rule matches. -/
def Verdict.unmatched : Verdict := ⟨.allow, none, 0⟩

/-- A rule whose pattern is a regular expression. -/
structure LoadedRule where
  rule : CompiledRule
  regex : Regex
deriving Repr

/-- A batch of rules ready for matching, and the ids of those whose pattern is no regular
expression. -/
structure Matcher where
  loaded : List LoadedRule
  rejected : List Nat
deriving Repr

namespace CompiledRule

/-- The rule ready for matching, if its pattern is a regular expression. -/
def load? (rule : CompiledRule) : Option LoadedRule :=
  (FilterPattern.load? rule.caseSensitive rule.matchPattern).map (⟨rule, ·⟩)

/-- Whether the conditions of the rule hold, the URL pattern apart.  `site` is the host of the
initiator.  A request without one is a navigation, hence of the first party, and satisfies no
include. -/
def conditionHolds (rule : CompiledRule) (types : ResourceTypes) (requestHost : String)
    (site : Option String) : Bool :=
  rule.resourceTypes.all (·.intersects types) &&
  rule.includes.all (fun includes => site.any fun site => includes.any (Domain.matchesDomain site)) &&
  rule.excludes.all
    (fun excludes => !site.any fun site => excludes.any (Domain.matchesDomain site)) &&
  rule.party.all (fun party =>
    (site.any fun site => Url.isThirdParty site requestHost) == (party == .third))

/-- Whether the rule goes before another one that matches as well. -/
def outranks (rule current : CompiledRule) : Bool :=
  current.priority < rule.priority ||
    (rule.priority == current.priority && rule.action == .allow && current.action == .block)

/-- The verdict when the rule decides. -/
def verdict (rule : CompiledRule) : Verdict := ⟨rule.action, some rule.id, rule.priority⟩

end CompiledRule

namespace Matcher

/-- The matcher of a batch of rules. -/
def ofRules (rules : List CompiledRule) : Matcher where
  loaded := rules.filterMap (·.load?)
  rejected := (rules.filter (·.load?.isNone)).map (·.id)

/-- The deciding rule among those that match, in the order of the batch. -/
def best? (candidates : List CompiledRule) : Option CompiledRule :=
  candidates.foldl
    (fun best rule =>
      match best with
      | some current => if rule.outranks current then some rule else some current
      | none => some rule)
    none

/-- The rules of the batch that match a request. -/
def candidates (matcher : Matcher) (request : Request) : List CompiledRule :=
  let requestHost := (Url.host? request.url).getD ""
  let site := request.initiator.bind Url.initiatorHost?
  let url := request.url.toList
  let matching := matcher.loaded.filter fun loaded =>
    loaded.rule.conditionHolds request.types requestHost site && loaded.regex.isMatch url
  matching.map (·.rule)

/-- The verdict on a request. -/
def decide (matcher : Matcher) (request : Request) : Verdict :=
  match best? (matcher.candidates request) with
  | some rule => rule.verdict
  | none => .unmatched

end Matcher

end ContentFilter
