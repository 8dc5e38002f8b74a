import ContentFilter.CommandLine.Host
import ContentFilter.CommandLine.Path
import ContentFilter.Error
import ContentFilter.FilterList

/-!
# Sources of lists

Lists are named on the command line as `category=location`, or by their location alone.
-/

namespace ContentFilter

/-- A list named on the command line. -/
structure ListSource where
  category : Category
  location : String
deriving DecidableEq, Repr

namespace ListSource

/-- The source that a text names.  What stands before the first equals sign is a category, unless it
holds a slash or a colon; without one the list is a subscription. -/
def parse (spec : String) : Except RuleSetError ListSource := do
  let chars := spec.toList
  let name := chars.takeWhile (· != '=')
  if !chars.contains '=' || name.contains '/' || name.contains ':' then
    pure ⟨.filterLists, spec⟩
  else
    let category ← Category.parse (String.ofList name)
    pure ⟨category, String.ofList (chars.drop (name.length + 1))⟩

/-- What is known about the list of a source whose text is given.  Its format is guessed if it is not
prescribed. -/
def list (source : ListSource) (format : Option ListFormat) (text : String) : FilterList :=
  { FilterList.new source.location source.location source.category with
    displayName := Path.lastSegment source.location
    format := format.getD (.detect text) }

/-- The list of a source whose text was fetched at the given time. -/
def read (source : ListSource) (format : Option ListFormat) (text : String) (now : Nat) :
    CachedList :=
  .ofText (source.list format text) text now

/-- The scheme of an absolute address and what stands behind its colon.  A location that does not begin
with the name of a scheme and a colon has none. -/
def splitScheme? (location : String) : Option (List Char × List Char) :=
  let address := location.toList.dropWhile fun c => c.toNat ≤ 0x20
  let scheme := address.takeWhile fun c => c.isAlphanum || c == '+' || c == '-' || c == '.'
  match address.drop scheme.length with
  | ':' :: rest => if scheme.head?.any Char.isAlpha then some (Text.lower scheme, rest) else none
  | _ => none

/-- Whether an address of this scheme can be asked for a page. -/
def isWebScheme (scheme : List Char) : Bool := scheme == "http".toList || scheme == "https".toList

/-- The written form of an absolute address: scheme and host in small letters, and a path, which is a
slash if there is none. -/
def writtenAddress (scheme rest : List Char) : String :=
  match Text.stripStart? ['/', '/'] rest with
  | some rest =>
    let host := rest.takeWhile fun c => c != '/' && c != '?' && c != '#'
    let tail := rest.drop host.length
    let path := if tail.head? == some '/' then tail else '/' :: tail
    String.ofList (scheme ++ [':', '/', '/'] ++ Text.lower host ++ path)
  | none => String.ofList (scheme ++ ':' :: rest)

end ListSource

end ContentFilter
