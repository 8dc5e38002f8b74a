import ContentFilter.Compilation

/-!
# Tiers of source rules

What the lists and the user's own entries say about a request, read off the sources without compiling
them: every source rule stands in a tier, and the highest tier in which one applies decides.  The
verdict of the compiled rules is the same, as long as no rule was dropped for want of an id or of room.
-/

namespace ContentFilter

/-! ## Requests -/

namespace Request

/-- The host of the page that makes the request. -/
def site? (request : Request) : Option String := request.initiator.bind Url.initiatorHost?

/-- Whether the request goes to another site than that of its page. -/
def isThirdParty (request : Request) : Bool :=
  request.site?.any fun site => Url.isThirdParty site ((Url.host? request.url).getD "")

/-- Whether the request stays within a restriction to one party, if there is one. -/
def respects (request : Request) : Option Party → Bool
  | none => true
  | some .first => !request.isThirdParty
  | some .third => request.isThirdParty

/-- Whether a scope covers the page of the request.  Without a page only includes are missed. -/
def isWithin (request : Request) (scope : Domain.Scope) : Bool :=
  match request.site? with
  | some site => Domain.applies scope.includes scope.excludes site
  | none => scope.includes.isEmpty

/-- Whether the URL fits the pattern of a filter. -/
def fits (request : Request) (caseSensitive : Bool) (pattern : String) : Bool :=
  (FilterPattern.load? caseSensitive (FilterPattern.translate pattern)).any
    (·.isMatch request.url.toList)

end Request

/-! ## Source rules -/

/-- Whether a network filter covers a request; `defaultTypes` are those of filters that name none. -/
def NetworkFilter.covers (filter : NetworkFilter) (defaultTypes : ResourceTypes)
    (request : Request) : Bool :=
  (filter.resourceTypes.getD defaultTypes).intersects request.types &&
    request.isWithin filter.scope &&
    request.respects filter.party &&
    request.fits filter.matchCase filter.pattern

/-- Whether the pattern of a network filter is accepted into a rule set. -/
def NetworkFilter.isAccepted (filter : NetworkFilter) : Bool :=
  FilterPattern.isValid (FilterPattern.translate filter.pattern)

/-- What a rule set is made of, before it is compiled. -/
inductive SourceRule where
  /-- A filter of a list. -/
  | listed (filter : NetworkFilter)
  /-- The filter that a rule of the user's own stands for. -/
  | custom (filter : NetworkFilter)
  | whitelisted (domain : String)
  | blacklisted (domain : String)
deriving Repr

namespace SourceRule

/-- The tier of a source rule. -/
def tier : SourceRule → PriorityTier
  | .listed filter =>
    if filter.isException then .listException
    else if filter.important then .listImportant
    else .listBlock
  | .custom filter => if filter.isException then .customAllow else .customBlock
  | .whitelisted _ => .whitelist
  | .blacklisted _ => .blacklist

/-- Whether a source rule applies to a request.  A whitelisted domain stands for everything that its
pages request, and a blacklisted one for every request to it, navigations included. -/
def applies (config : CompilerConfig) (request : Request) : SourceRule → Bool
  | .listed filter => filter.covers config.defaultTypes request
  | .custom filter => filter.covers config.defaultTypes request
  | .whitelisted domain =>
    ResourceTypes.all.intersects request.types &&
      request.site?.any (Domain.matchesDomain · domain)
  | .blacklisted domain =>
    (config.defaultTypes.union (.only .mainFrame)).intersects request.types &&
      request.fits false ("||" ++ domain ++ "^")

end SourceRule

/-- The network filter, if the filter is one. -/
def Filter.asNetwork? : Filter → Option NetworkFilter
  | .network filter => some filter
  | _ => none

namespace CompileInput

/-- The network filters of the lists that take part. -/
def listedFilters (input : CompileInput) : List NetworkFilter :=
  (input.lists.filter (·.isIncluded input.enabledCategories)).flatMap fun cached =>
    cached.filters.filterMap Filter.asNetwork?

/-- The network filters of the lists that neither withdraw others nor are withdrawn themselves. -/
def standingFilters (input : CompileInput) : List NetworkFilter :=
  input.listedFilters.filter fun filter =>
    !filter.badfilter &&
      !input.listedFilters.any fun other => other.badfilter && other.key == filter.key

/-- All source rules of a rule set. -/
def sourceRules (input : CompileInput) : List SourceRule :=
  (input.whitelist.filterMap Domain.normalize?).map .whitelisted ++
    (input.blacklist.filterMap Domain.normalize?).map .blacklisted ++
    ((input.customRules.filterMap (·.toFilter?)).filter (·.isAccepted)).map .custom ++
    (input.standingFilters.filter (·.isAccepted)).map .listed

end CompileInput

namespace PriorityTier

/-- The tiers in order of precedence, the first of which goes before all others. -/
def precedence : List PriorityTier :=
  [.customAllow, .customBlock, .whitelist, .blacklist, .listException, .listImportant, .listBlock]

end PriorityTier

/-- The tier that decides on a request: the first in which a source rule applies. -/
def CompileInput.decidingTier? (input : CompileInput) (config : CompilerConfig)
    (request : Request) : Option PriorityTier :=
  PriorityTier.precedence.find? fun tier =>
    input.sourceRules.any fun rule => rule.tier == tier && rule.applies config request

/-- A verdict that follows a tier, or the lack of one. -/
inductive Verdict.Follows : Verdict → Option PriorityTier → Prop where
  | decided (tier : PriorityTier) (id : Nat) :
      Verdict.Follows ⟨tier.action, some id, tier.priority⟩ (some tier)
  | undecided : Verdict.Follows ⟨.allow, none, 0⟩ none

end ContentFilter
