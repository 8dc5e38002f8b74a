import ContentFilter.Filter
import ContentFilter.Filter.Network
import ContentFilter.Url.Address

/-!
# Reading hosts entries

A line of a hosts file sends domains to an address that leads nowhere.  Each of its domains becomes a
filter that blocks the domain and its subdomains.
-/

namespace ContentFilter.Filter

/-- Host names that stand in every hosts file and are never blocked. -/
def reservedHosts : List String :=
  ["localhost", "localhost.localdomain", "local", "broadcasthost", "ip6-localhost", "ip6-loopback",
   "ip6-localnet", "ip6-mcastprefix", "ip6-allnodes", "ip6-allrouters", "ip6-allhosts", "0.0.0.0"]

/-- The addresses that a hosts entry may send domains to. -/
def sinkAddresses : List String := ["0.0.0.0", "127.0.0.1", "::", "::1"]

/-- Whether a word is one of the addresses that lead nowhere. -/
def isSinkAddress (word : List Char) : Bool := sinkAddresses.contains (String.ofList word)

/-- Whether a line of an ad-filter list is a hosts entry. -/
def looksLikeHostsEntry (line : List Char) : Bool :=
  (Text.words line).head?.any isSinkAddress

/-- Whether a word, in small letters, is a name that is never blocked or an address. -/
def isReserved (word : List Char) : Bool :=
  reservedHosts.contains (String.ofList word) || Url.Address.isAddress word

/-- The filter that blocks a domain; `address` and `word` are its entry as written. -/
def hostFilter (address word : List Char) (domain : String) : NetworkFilter where
  pattern := "||" ++ domain ++ "^"
  isException := false
  scope := .everywhere
  resourceTypes := none
  party := none
  important := false
  matchCase := false
  badfilter := false
  sourceLine := String.ofList (address ++ ' ' :: word)

/-- The filter of one word behind the address of an entry, unless the word is reserved or no
domain. -/
def hostFilter? (address word : List Char) : Option Filter :=
  let folded := Text.lower word
  if isReserved folded then none
  else (Domain.normalize? (String.ofList folded)).map fun domain =>
    .network (hostFilter address word domain)

/-- A line of a hosts file.  A hash begins a comment.  An entry that blocks nothing is left out on
purpose if it holds a reserved name, and otherwise invalid. -/
def hostsLine (line : List Char) : LineResult :=
  let entry := Text.trim (line.takeWhile (· != '#'))
  match Text.words entry with
  | [] => .ignored
  | address :: names =>
    if isComment entry then .ignored
    else if !isSinkAddress address then .skipped
    else
      match names.filterMap (hostFilter? address) with
      | [] => if names.any fun word => isReserved (Text.lower word) then .ignored else .skipped
      | filters => .parsed filters

end ContentFilter.Filter
