import ContentFilter.Filter.Network
import ContentFilter.Filter.Cosmetic
import ContentFilter.Filter.Hosts

/-!
# Reading filter lists

The two formats of filter lists, and the reading of a whole list line by line.  Reading never fails: a
line that stands for no filter is counted and left out.
-/

namespace ContentFilter

/-- The format of a filter list. -/
inductive ListFormat where
  | adblock
  | hosts
deriving DecidableEq, Repr

namespace ListFormat

/-- The name of a format. -/
def name : ListFormat → String
  | .adblock => "adblock"
  | .hosts => "hosts"

/-- The format of exactly this name. -/
def ofName? : String → Option ListFormat
  | "adblock" => some .adblock
  | "hosts" => some .hosts
  | _ => none

/-- How many lines are looked at to guess the format of a list. -/
def sampleSize : Nat := 500

/-- The format that the content of a list suggests: a hosts file if most lines of the sample, comments
and blank lines apart, begin with an address. -/
def detect (text : String) : ListFormat :=
  let sample := ((Text.lines text.toList).take sampleSize).map Text.trim
  let entries := sample.filter fun line =>
    !line.isEmpty && !Filter.isComment line && line.head? != some '#'
  let (addressed, others) := entries.partition fun line =>
    (Text.words line).head?.any Url.Address.isAddress
  if others.length < addressed.length then .hosts else .adblock

end ListFormat

namespace Filter

/-- A trimmed line of an ad-filter list. -/
def adblockLine (line : List Char) : LineResult :=
  if line.isEmpty || isComment line then .ignored
  else
    match splitCosmetic? line with
    | some cosmetic => .ofFilter? cosmetic.filter?
    | none =>
      if line.head? == some '#' then .ignored
      else if looksLikeHostsEntry line then hostsLine line
      else if Text.containsText ['$', '$'] line then .skipped
      else .ofFilter? ((networkOfLine? line).map .network)

/-- A line of a list of either format. -/
def readLine (format : ListFormat) (line : List Char) : LineResult :=
  let line := Text.trim line
  match format with
  | .adblock => adblockLine line
  | .hosts => hostsLine line

/-- The network filter of a single text, such as a rule that a user has typed.  Comments and cosmetic
filters are none. -/
def network? (text : String) : Option NetworkFilter :=
  let line := Text.trim text.toList
  if line.isEmpty || isComment line || (splitCosmetic? line).isSome then none
  else networkOfLine? line

end Filter

/-- The filters of a list, and how many lines it has and how many of them were skipped. -/
structure ParsedList where
  filters : List Filter
  lines : Nat
  skipped : Nat
deriving DecidableEq, Repr

/-- The reading of a list. -/
def ParsedList.ofText (format : ListFormat) (text : String) : ParsedList :=
  let results := (Text.lines text.toList).map (Filter.readLine format)
  { filters := results.flatMap (·.filters)
    lines := results.length
    skipped := results.countP (· == .skipped) }

end ContentFilter
