import ContentFilter.Filter

/-!
# Removing withdrawn and repeated filters

A `badfilter` withdraws the filters that are equal to it up to the line they were read from, wherever
they stand.  Of what is left, every filter is kept once, at its first place.
-/

namespace ContentFilter

/-- A filter with the list that it came from. -/
structure SourcedFilter where
  listIndex : Nat
  category : Category
  filter : Filter
deriving DecidableEq, Repr

/-- What makes two network filters the same: everything but the line they were read from and whether
they withdraw or filter. -/
structure NetworkKey where
  pattern : String
  isException : Bool
  scope : Domain.Scope
  resourceTypes : Option ResourceTypes
  party : Option Party
  important : Bool
  matchCase : Bool
deriving DecidableEq, Repr

/-- The identity of a network filter. -/
def NetworkFilter.key (filter : NetworkFilter) : NetworkKey where
  pattern := filter.pattern
  isException := filter.isException
  scope := filter.scope
  resourceTypes := filter.resourceTypes
  party := filter.party
  important := filter.important
  matchCase := filter.matchCase

/-- What makes two filters the same. -/
inductive FilterKey where
  | network (key : NetworkKey)
  | cosmetic (filter : Filter)
deriving DecidableEq, Repr

/-- The identity of a filter. -/
def Filter.key : Filter → FilterKey
  | .network filter => .network filter.key
  | filter => .cosmetic filter

/-- The network filter that withdraws others, if the filter is one. -/
def Filter.badfilter? : Filter → Option NetworkFilter
  | .network filter => if filter.badfilter then some filter else none
  | _ => none

namespace Optimizer

/-- The filters that come for the first time, by identity; `seen` holds the identities met before. -/
def firstOccurrences (seen : List FilterKey) : List SourcedFilter → List SourcedFilter
  | [] => []
  | sourced :: rest =>
    if seen.contains sourced.filter.key then firstOccurrences seen rest
    else sourced :: firstOccurrences (sourced.filter.key :: seen) rest

/-- The identities that are withdrawn somewhere in the list. -/
def withdrawnKeys (filters : List SourcedFilter) : List NetworkKey :=
  filters.filterMap fun sourced => sourced.filter.badfilter?.map (·.key)

/-- Whether a filter is withdrawn. -/
def isWithdrawn (withdrawn : List NetworkKey) : Filter → Bool
  | .network filter => withdrawn.contains filter.key
  | _ => false

/-- What is left of a list of filters, and how many were dropped for each reason. -/
structure Outcome where
  kept : List SourcedFilter
  before : Nat
  duplicates : Nat
  badfilters : Nat
  withdrawn : Nat
deriving Repr

/-- How many filters are left. -/
def Outcome.after (outcome : Outcome) : Nat := outcome.kept.length

/-- The filters without those that withdraw or are withdrawn, each of them once. -/
def optimize (filters : List SourcedFilter) : Outcome :=
  let keys := withdrawnKeys filters
  let plain := filters.filter (·.filter.badfilter?.isNone)
  let standing := plain.filter (!isWithdrawn keys ·.filter)
  let kept := firstOccurrences [] standing
  { kept
    before := filters.length
    duplicates := standing.length - kept.length
    badfilters := filters.length - plain.length
    withdrawn := plain.length - standing.length }

end Optimizer

end ContentFilter
