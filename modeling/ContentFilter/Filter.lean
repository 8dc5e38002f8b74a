import ContentFilter.Domain
import ContentFilter.Rule

/-!
# Filters

What the lines of filter lists stand for: filters on network requests, selectors to hide on pages, and
scripts to run there.
-/

namespace ContentFilter

/-- A filter on network requests. -/
structure NetworkFilter where
  pattern : String
  isException : Bool
  scope : Domain.Scope
  /-- The types the filter names, if it names any. -/
  resourceTypes : Option ResourceTypes
  party : Option Party
  important : Bool
  matchCase : Bool
  /-- A filter that withdraws the filters equal to it. -/
  badfilter : Bool
  /-- The line that the filter was read from. -/
  sourceLine : String
deriving DecidableEq, Repr

/-- A selector of elements that are hidden on matching pages. -/
structure ElementHideFilter where
  selector : String
  scope : Domain.Scope
  isException : Bool
deriving DecidableEq, Repr

/-- A script that runs on matching pages; its text is passed through. -/
structure ScriptletFilter where
  body : String
  scope : Domain.Scope
  isException : Bool
deriving DecidableEq, Repr

/-- A filter of any kind. -/
inductive Filter where
  | network (filter : NetworkFilter)
  | elementHide (filter : ElementHideFilter)
  | scriptlet (filter : ScriptletFilter)
deriving DecidableEq, Repr

/-- What became of a line of a filter list. -/
inductive LineResult where
  /-- A blank line, a comment, or an entry that is left out on purpose. -/
  | ignored
  | parsed (filters : List Filter)
  /-- A line that stands for no filter this library knows. -/
  | skipped
deriving DecidableEq, Repr

/-- The filters of a line. -/
def LineResult.filters : LineResult → List Filter
  | .parsed filters => filters
  | .ignored | .skipped => []

/-- The result of a line that holds one filter or is skipped. -/
def LineResult.ofFilter? : Option Filter → LineResult
  | some filter => .parsed [filter]
  | none => .skipped

end ContentFilter
