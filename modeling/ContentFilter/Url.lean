import ContentFilter.Domain
import ContentFilter.Url.Address

/-!
# Addresses of requests

The host of a request and the host of the page it comes from, and the registrable domain that decides
whether the two belong to one site.
-/

namespace ContentFilter.Url

/-! ## Hosts -/

/-- What stands in front of the first colon and what stands behind the two slashes that follow it. -/
def splitScheme? (url : List Char) : Option (List Char × List Char) :=
  let scheme := url.takeWhile (· != ':')
  match url.drop scheme.length with
  | ':' :: '/' :: '/' :: rest => some (scheme, rest)
  | _ => none

/-- How many bytes the scheme and the `://` behind it take. -/
def schemeEnd? (url : String) : Option Nat :=
  (splitScheme? url.toList).map fun (scheme, _) => Text.utf8Length scheme + 3

/-- The text behind the last occurrence of a character, or all of it. -/
def behindLast (c : Char) (s : List Char) : List Char :=
  (s.reverse.takeWhile (· != c)).reverse

/-- The text before the last occurrence of a character, or all of it. -/
def beforeLast (c : Char) (s : List Char) : List Char :=
  if s.contains c then ((s.reverse.dropWhile (· != c)).drop 1).reverse else s

/-- The host of an authority: no user before it, no port behind it, and brackets kept. -/
def authorityHost (authority : List Char) : List Char :=
  match behindLast '@' authority with
  | '[' :: rest =>
    if rest.contains ']' then '[' :: rest.takeWhile (· != ']') ++ [']'] else '[' :: rest
  | hostAndPort => beforeLast ':' hostAndPort

/-- A character that ends the authority of a URL. -/
def endsAuthority (c : Char) : Bool := c == '/' || c == '?' || c == '#'

/-- The host of a URL that has one. -/
def host? (url : String) : Option String := do
  let (_, rest) ← splitScheme? url.toList
  match authorityHost (rest.takeWhile (!endsAuthority ·)) with
  | [] => none
  | host => some (String.ofList host)

/-- The host of a request's initiator, which may be an origin or a bare host name. -/
def initiatorHost? (initiator : String) : Option String :=
  let text := Text.trim initiator.toList
  if text.isEmpty || text == "null".toList then none
  else if Text.containsText "://".toList text then host? (String.ofList text)
  else some (String.ofList (Text.dropEndWhile (· == '/') text))

/-! ## Registrable domains -/

/-- The common public suffixes of two labels. -/
def twoLabelSuffixes : List String :=
  ["co.uk", "co.jp", "co.nz", "co.za", "co.in", "co.kr",
   "com.au", "com.br", "com.cn", "com.mx", "com.tw", "com.hk",
   "net.au", "net.nz",
   "org.uk", "org.au",
   "gov.uk", "gov.au",
   "ac.uk", "ac.jp",
   "ne.jp", "or.jp"]

/-- The last `n` labels of a name, joined by dots; all of it if it has no more. -/
def lastLabels (n : Nat) (name : List Char) : List Char :=
  let labels := Text.splitOn '.' name
  ['.'].intercalate (labels.drop (labels.length - n))

/-- The registrable domain of a host: its last two labels, or three under a common public suffix of
two.  Dots at the end do not count.  A numeric address is its own registrable domain, and so is whatever
begins with a bracket. -/
def registrableDomain (host : String) : String :=
  let name := Domain.trimEndDots host.toList
  if name.head? == some '[' || Address.isAddress name then String.ofList name
  else
    let suffix := lastLabels 2 name
    let isPublic := twoLabelSuffixes.any fun s => Text.equalIgnoreCase s.toList suffix
    String.ofList (if isPublic then lastLabels 3 name else suffix)

/-- Whether a request to one host from a page of another crosses a site boundary. -/
def isThirdParty (siteHost requestHost : String) : Bool :=
  !Text.equalIgnoreCase (registrableDomain siteHost).toList (registrableDomain requestHost).toList

end ContentFilter.Url
