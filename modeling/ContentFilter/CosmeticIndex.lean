import ContentFilter.Filter

/-!
# The cosmetic index

Selectors to hide and scripts to run never reach the backend.  They are indexed by the domains that
they name, and looked up for every page: an entry is found under one of the domains above the page's,
or among the entries that name no domain.
-/

namespace ContentFilter

/-- What a cosmetic entry is. -/
inductive CosmeticKind where
  | selector
  | scriptlet
deriving DecidableEq, Repr

/-- The name of a kind of entry. -/
def CosmeticKind.name : CosmeticKind → String
  | .selector => "selector"
  | .scriptlet => "scriptlet"

/-- A selector or a script with the pages it is meant for. -/
structure CosmeticEntry where
  kind : CosmeticKind
  body : String
  scope : Domain.Scope
  isException : Bool
deriving DecidableEq, Repr

/-- The entry of a cosmetic filter. -/
def Filter.toCosmetic? : Filter → Option CosmeticEntry
  | .network _ => none
  | .elementHide filter => some ⟨.selector, filter.selector, filter.scope, filter.isException⟩
  | .scriptlet filter => some ⟨.scriptlet, filter.body, filter.scope, filter.isException⟩

/-- Cosmetic entries by domain. -/
structure CosmeticIndex where
  /-- Every entry, in the order of insertion. -/
  entries : List CosmeticEntry
  /-- The entries that name no domain, newest first. -/
  generic : List CosmeticEntry
  /-- For every domain the entries that name it, newest first. -/
  byDomain : List (String × List CosmeticEntry)
deriving Repr

namespace CosmeticIndex

/-- The index without entries. -/
def empty : CosmeticIndex := ⟨[], [], []⟩

/-- The entries stored under exactly this domain, newest first. -/
def under (index : CosmeticIndex) (domain : String) : List CosmeticEntry :=
  (index.byDomain.lookup domain).getD []

/-- The table with one more entry under a domain. -/
def storeUnder (entry : CosmeticEntry) (domain : String) :
    List (String × List CosmeticEntry) → List (String × List CosmeticEntry)
  | [] => [(domain, [entry])]
  | (name, entries) :: rest =>
    if name == domain then (name, entry :: entries) :: rest
    else (name, entries) :: storeUnder entry domain rest

/-- The index with one more entry. -/
def insert (index : CosmeticIndex) (entry : CosmeticEntry) : CosmeticIndex where
  entries := index.entries ++ [entry]
  generic := if entry.scope.includes.isEmpty then entry :: index.generic else index.generic
  byDomain := entry.scope.includes.foldl (fun table domain => storeUnder entry domain table)
    index.byDomain

/-- The index of a list of entries. -/
def ofEntries (entries : List CosmeticEntry) : CosmeticIndex := entries.foldl insert empty

/-- How many entries there are. -/
def size (index : CosmeticIndex) : Nat := index.entries.length

/-- The strings in the order of their code points, each of them once. -/
def sortedSet (items : List String) : List String :=
  (items.mergeSort fun a b => decide (a ≤ b)).eraseReps

/-- The entries that may apply on a page of a normalized domain. -/
def candidates (index : CosmeticIndex) (domain : String) : List CosmeticEntry :=
  index.generic ++ (Domain.suffixes domain).flatMap index.under

/-- The bodies of one kind that apply on a page of a normalized domain: those of the plain entries,
without those of exceptions. -/
def select (kind : CosmeticKind) (domain : String) (entries : List CosmeticEntry) :
    List String :=
  let applying := entries.filter fun entry =>
    entry.kind == kind && Domain.applies entry.scope.includes entry.scope.excludes domain
  let excepted := (applying.filter (·.isException)).map (·.body)
  let selected := (applying.filter (!·.isException)).map (·.body)
  sortedSet (selected.filter (!excepted.contains ·))

/-- The bodies of one kind for a page, in order.  There are none for a domain that is not valid. -/
def lookup (index : CosmeticIndex) (kind : CosmeticKind) (domain : String) : List String :=
  match Domain.normalize? domain with
  | none => []
  | some domain => select kind domain (index.candidates domain)

/-- The selectors to hide on a page. -/
def cosmeticsFor (index : CosmeticIndex) (domain : String) : List String :=
  index.lookup .selector domain

/-- The scripts to run on a page. -/
def scriptletsFor (index : CosmeticIndex) (domain : String) : List String :=
  index.lookup .scriptlet domain

/-- The selectors stored under exactly this domain, in the order of insertion; exceptions and entries
that name no domain do not count. -/
def domainEntries (index : CosmeticIndex) (domain : String) : List String :=
  match Domain.normalize? domain with
  | none => []
  | some domain =>
    let plain := (index.under domain).filter fun entry =>
      entry.kind == .selector && !entry.isException
    (plain.map (·.body)).reverse

end CosmeticIndex

end ContentFilter
